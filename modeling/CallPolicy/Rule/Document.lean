import CallPolicy.Data.Record
import CallPolicy.Rule.Set
import CallPolicy.Toml.Document
import CallPolicy.Toml.Inline

namespace CallPolicy

open Text

/-!
# Rules in configurations

* `RuleEntry`, `RuleDocument` — the rules of a configuration as written.
* `RuleEntry.rule` — the rule of an entry, or what is wrong and in which part.
* `RuleDocument.ruleSet` — the rules of a configuration, methods first, or the first fault and
  its place.
* `loadRules` — the same from the text of a configuration.
-/

/-! ### Entries -/

/-- A rule as written. -/
structure RuleEntry where
  method : Option (List String)
  function : Option (List String)
  message : String
  exclude : List String
  allowIn : List String
  allowExceptIn : List String
  allowInCallers : List String
  allowExceptInCallers : List String
  paramsInAllowed : List (String × Datum)
  exceptParamsInAllowed : List (String × Datum)
  paramsAnywhere : List (String × Datum)
  exceptParams : List (String × Datum)
  errorTip : Option String
  errorIdentifier : Option String
  severity : String

structure RuleDocument where
  methods : List RuleEntry
  functions : List RuleEntry

/-- One text, or a list of texts. -/
def oneOrMany? : Datum → Option (List String)
  | .text s => some [s]
  | d => d.listOf? Datum.text?

namespace RuleEntry

def fields : List Field :=
  [.plain "method", .plain "function", .plain "message", .plain "exclude", .plain "allow-in",
    ⟨"allow-except-in", ["disallow-in"]⟩,
    ⟨"allow-in-callers", ["allow-in-methods", "allow-in-functions"]⟩,
    ⟨"allow-except-in-callers",
      ["allow-except-in-methods", "allow-except-in-functions", "disallow-in-callers"]⟩,
    .plain "allow-params-in-allowed", .plain "allow-except-params-in-allowed",
    .plain "allow-params-anywhere", ⟨"allow-except-params", ["disallow-params"]⟩,
    .plain "error-tip", .plain "error-identifier", .plain "severity"]

/-- An entry from a table with no other fields. -/
def ofDatum? (d : Datum) : Option RuleEntry := do
  let record ← Record.read? .toml fields true d
  let texts := Datum.listOf? Datum.text?
  let method ← record.optional? "method" oneOrMany?
  let function ← record.optional? "function" oneOrMany?
  let message ← record.default? "message" "" Datum.text?
  let exclude ← record.default? "exclude" [] oneOrMany?
  let allowIn ← record.default? "allow-in" [] texts
  let allowExceptIn ← record.default? "allow-except-in" [] texts
  let allowInCallers ← record.default? "allow-in-callers" [] texts
  let allowExceptInCallers ← record.default? "allow-except-in-callers" [] texts
  let paramsInAllowed ← record.default? "allow-params-in-allowed" [] Datum.entries?
  let exceptParamsInAllowed ← record.default? "allow-except-params-in-allowed" [] Datum.entries?
  let paramsAnywhere ← record.default? "allow-params-anywhere" [] Datum.entries?
  let exceptParams ← record.default? "allow-except-params" [] Datum.entries?
  let errorTip ← record.optional? "error-tip" Datum.text?
  let errorIdentifier ← record.optional? "error-identifier" Datum.text?
  let severity ← record.default? "severity" Severity.error.name Datum.text?
  some {
    method, function, message, exclude, allowIn, allowExceptIn, allowInCallers,
    allowExceptInCallers, paramsInAllowed, exceptParamsInAllowed, paramsAnywhere, exceptParams,
    errorTip, errorIdentifier, severity }

end RuleEntry

/-- The section of a configuration for rules of a kind. -/
def RuleKind.section : RuleKind → String
  | method => "disallowed-method-calls"
  | function => "disallowed-function-calls"

namespace RuleDocument

def fields : List Field := [.plain (RuleKind.section .method), .plain (RuleKind.section .function)]

def ofDatum? (d : Datum) : Option RuleDocument := do
  let record ← Record.read? .toml fields false d
  let entries := Datum.listOf? RuleEntry.ofDatum?
  let methods ← record.default? (RuleKind.section .method) [] entries
  let functions ← record.default? (RuleKind.section .function) [] entries
  some { methods, functions }

end RuleDocument

/-! ### Errors -/

/-- What is wrong with an entry. -/
inductive RuleError where
  | pattern (cause : PatternError)
  | glob (cause : GlobError)
  | condition (cause : ConditionError)
  | fault (cause : RuleFault)
  /-- Both methods and functions are named. -/
  | ambiguousCallKey
  | unknownSeverity (name : String)
  deriving DecidableEq, Repr

def RuleError.message : RuleError → String
  | pattern cause => cause.message
  | glob cause => cause.message
  | condition cause => cause.message
  | fault cause => cause.message
  | ambiguousCallKey => "exactly one of `function` or `method` must be set"
  | unknownSeverity name => s!"unknown severity `{name}`, expected: error, warning, info"

/-- The part of an entry that is wrong. -/
inductive EntryPart where
  | whole
  /-- An item of a list, counted from 0. -/
  | item (list : String) (index : Nat)
  | table (name : String)
  deriving DecidableEq, Repr

/-- Where a configuration is wrong: the entry, counted from 0 in its section, and the part. -/
structure Place where
  kind : RuleKind
  index : Nat
  part : EntryPart
  deriving DecidableEq, Repr

def Place.text (p : Place) : String :=
  let entry := s!"{p.kind.section}[{p.index}]"
  match p.part with
  | .whole => entry
  | .item list index => s!"{entry}.{list}[{index}]"
  | .table name => s!"{entry}.{name}"

inductive LoadError where
  /-- The text is no TOML, or not of the shape of a configuration. -/
  | malformed
  | invalid (place : Place) (cause : RuleError)
  deriving DecidableEq, Repr

/-! ### Conditions -/

/-- The greatest position and line number. -/
def maxPosition : Nat := UInt64.size - 1

/-- A position as written: digits, after an optional plus sign. -/
def position? (cs : List Char) : Option Nat :=
  let digits :=
    match cs with
    | '+' :: rest => rest
    | cs => cs
  if digits.isEmpty || !digits.all Char.isDigit then none
  else
    let n := Toml.natOfDigits 10 digits
    if n ≤ maxPosition then some n else none

/-- Adds a condition as written. -/
def Conditions.insertWritten (c : Conditions) (entry : String × Datum) :
    Except ConditionError Conditions :=
  match position? (trim entry.1.toList) with
  | none => .error (.invalidPosition entry.1)
  | some position =>
    match Argument.ofToml? entry.2 with
    | none => .error (.unsupportedValue position (Toml.inline entry.2))
    | some literal => c.insert position literal

/-- The conditions of a table, added in the order of its keys. -/
def Conditions.ofTable (entries : List (String × Datum)) : Except ConditionError Conditions :=
  (Datum.sortByKey entries).foldlM Conditions.insertWritten .empty

/-! ### Rules -/

/-- A clause that is still to be read, in its part of the entry. -/
structure WrittenClause where
  part : EntryPart
  clause : Except RuleError Clause

namespace RuleEntry

/-- A list of an entry, one clause for each text. -/
def listClauses (list : String) (read : String → Except RuleError Clause) (texts : List String) :
    List WrittenClause :=
  texts.zipIdx.map fun (text, index) => ⟨.item list index, read text⟩

def patternClause (clause : SymbolPattern → Clause) (text : String) : Except RuleError Clause :=
  match SymbolPattern.compile text with
  | .ok pattern => .ok (clause pattern)
  | .error cause => .error (.pattern cause)

def globClause (root : ProjectRoot) (clause : PathGlob → Clause) (text : String) :
    Except RuleError Clause :=
  match PathGlob.compile root text with
  | .ok glob => .ok (clause glob)
  | .error cause => .error (.glob cause)

def tableClause (name : String) (clause : Conditions → Clause) (entries : List (String × Datum)) :
    WrittenClause where
  part := .table name
  clause :=
    match Conditions.ofTable entries with
    | .ok conditions => .ok (clause conditions)
    | .error cause => .error (.condition cause)

/-- A clause that needs no reading. -/
def readyClause (clause : Clause) : WrittenClause := ⟨.whole, .ok clause⟩

def severityClause (name : String) : WrittenClause where
  part := .whole
  clause :=
    match Severity.ofName? name with
    | some severity => .ok (.severity severity)
    | none => .error (.unknownSeverity name)

/-- The call patterns of an entry, which names either methods or functions. -/
def calls (e : RuleEntry) : Except RuleError (List String) :=
  match e.method, e.function with
  | some texts, none | none, some texts => .ok texts
  | some _, some _ => .error .ambiguousCallKey
  | none, none => .error (.fault .noCalls)

/-- The clauses of an entry, in the order in which they are checked. -/
def clauses (root : ProjectRoot) (calls : List String) (e : RuleEntry) : List WrittenClause :=
  [readyClause (.message e.message)] ++
  listClauses "calls" (patternClause .call) calls ++
  listClauses "exclude" (patternClause .exclude) e.exclude ++
  listClauses "allow-in" (globClause root .allowIn) e.allowIn ++
  listClauses "allow-except-in" (globClause root .allowExceptIn) e.allowExceptIn ++
  listClauses "allow-in-callers" (patternClause .allowInCaller) e.allowInCallers ++
  listClauses "allow-except-in-callers" (patternClause .allowExceptInCaller)
    e.allowExceptInCallers ++
  [tableClause "allow-params-in-allowed" .paramsInAllowed e.paramsInAllowed,
    tableClause "allow-except-params-in-allowed" .exceptParamsInAllowed e.exceptParamsInAllowed,
    tableClause "allow-params-anywhere" .paramsAnywhere e.paramsAnywhere,
    tableClause "allow-except-params" .exceptParams e.exceptParams] ++
  e.errorTip.toList.map (fun text => readyClause (.errorTip text)) ++
  e.errorIdentifier.toList.map (fun text => readyClause (.errorIdentifier text)) ++
  [severityClause e.severity]

/-- The clauses, or the first that cannot be read. -/
def readClauses : List WrittenClause → Except (EntryPart × RuleError) (List Clause)
  | [] => .ok []
  | written :: rest =>
    match written.clause with
    | .error cause => .error (written.part, cause)
    | .ok clause => (readClauses rest).map (clause :: ·)

/-- The rule of an entry in the section of `kind`. -/
def rule (root : ProjectRoot) (kind : RuleKind) (e : RuleEntry) :
    Except (EntryPart × RuleError) Rule :=
  match e.calls with
  | .error cause => .error (.whole, cause)
  | .ok calls =>
    match readClauses (e.clauses root calls) with
    | .error fault => .error fault
    | .ok clauses =>
      match Rule.assemble kind clauses with
      | .error fault => .error (.whole, .fault fault)
      | .ok rule => .ok rule

end RuleEntry

namespace RuleDocument

/-- The rules of a section whose first entry has the given index. -/
def sectionRules (root : ProjectRoot) (kind : RuleKind) (index : Nat) :
    List RuleEntry → Except LoadError (List Rule)
  | [] => .ok []
  | entry :: rest =>
    match entry.rule root kind with
    | .error (part, cause) => .error (.invalid ⟨kind, index, part⟩ cause)
    | .ok rule => (sectionRules root kind (index + 1) rest).map (rule :: ·)

def ruleSet (root : ProjectRoot) (d : RuleDocument) : Except LoadError RuleSet :=
  match sectionRules root .method 0 d.methods with
  | .error e => .error e
  | .ok methods =>
    match sectionRules root .function 0 d.functions with
    | .error e => .error e
    | .ok functions => .ok ⟨methods ++ functions⟩

end RuleDocument

/-- The rules in the text of a configuration. -/
def loadRules (root : ProjectRoot) (text : String) : Except LoadError RuleSet :=
  match Toml.parse? text.toList >>= RuleDocument.ofDatum? with
  | some document => document.ruleSet root
  | none => .error .malformed

end CallPolicy
