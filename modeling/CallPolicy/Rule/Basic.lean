import CallPolicy.Argument.Conditions
import CallPolicy.Glob.PathGlob
import CallPolicy.Severity
import CallPolicy.Symbol.Pattern

namespace CallPolicy

/-!
# Rules

A rule forbids calls and says where they are allowed after all.

* `Clause` — one statement of a rule; `Rule.assemble` is the rule of a list of clauses.
* `Rule.fault?` — why clauses make no rule.
* `Rule.matchingPattern?` — the pattern by which a rule is about a symbol.
-/

/-- The calls a rule is about. -/
inductive RuleKind where
  | function
  | method
  deriving DecidableEq, Repr

def RuleKind.name : RuleKind → String
  | function => "function"
  | method => "method"

/-- Rules for methods are about static and instance methods. -/
def RuleKind.appliesTo : RuleKind → SymbolKind → Bool
  | function, kind => kind == .function
  | method, kind => kind.isMethod

structure Rule where
  kind : RuleKind
  calls : List SymbolPattern
  excludes : List SymbolPattern
  message : String
  allowIn : List PathGlob
  allowExceptIn : List PathGlob
  allowInCallers : List SymbolPattern
  allowExceptInCallers : List SymbolPattern
  /-- Required where `allowIn` or `allowInCallers` allows the call. -/
  paramsInAllowed : Conditions
  /-- Forbidden where `allowIn` or `allowInCallers` allows the call. -/
  exceptParamsInAllowed : Conditions
  /-- Allow the call anywhere. -/
  paramsAnywhere : Conditions
  /-- Forbidden everywhere. -/
  exceptParams : Conditions
  errorTip : Option String
  errorIdentifier : Option String
  severity : Severity
  deriving DecidableEq

/-! ### Assembling rules -/

/-- One statement of a rule. -/
inductive Clause where
  | call (pattern : SymbolPattern)
  | exclude (pattern : SymbolPattern)
  | message (text : String)
  | allowIn (glob : PathGlob)
  | allowExceptIn (glob : PathGlob)
  | allowInCaller (pattern : SymbolPattern)
  | allowExceptInCaller (pattern : SymbolPattern)
  | paramsInAllowed (conditions : Conditions)
  | exceptParamsInAllowed (conditions : Conditions)
  | paramsAnywhere (conditions : Conditions)
  | exceptParams (conditions : Conditions)
  | errorTip (text : String)
  | errorIdentifier (text : String)
  | severity (severity : Severity)
  deriving DecidableEq

/-- Why clauses make no rule. -/
inductive RuleFault where
  | noCalls
  /-- A value is required and forbidden at one position. -/
  | conflictingParams (position : Nat)
  deriving DecidableEq, Repr

def RuleFault.message : RuleFault → String
  | noCalls => "rule must name at least one function or method"
  | conflictingParams position =>
    s!"parameter {position} is both allowed and forbidden with the same value"

namespace Rule

/-- The rule that says nothing. -/
def blank (kind : RuleKind) : Rule where
  kind
  calls := []
  excludes := []
  message := ""
  allowIn := []
  allowExceptIn := []
  allowInCallers := []
  allowExceptInCallers := []
  paramsInAllowed := .empty
  exceptParamsInAllowed := .empty
  paramsAnywhere := .empty
  exceptParams := .empty
  errorTip := none
  errorIdentifier := none
  severity := .error

/-- The rule with one more clause: patterns and globs are added, all else is replaced. -/
def extend (r : Rule) : Clause → Rule
  | .call p => { r with calls := r.calls ++ [p] }
  | .exclude p => { r with excludes := r.excludes ++ [p] }
  | .message text => { r with message := text }
  | .allowIn g => { r with allowIn := r.allowIn ++ [g] }
  | .allowExceptIn g => { r with allowExceptIn := r.allowExceptIn ++ [g] }
  | .allowInCaller p => { r with allowInCallers := r.allowInCallers ++ [p] }
  | .allowExceptInCaller p => { r with allowExceptInCallers := r.allowExceptInCallers ++ [p] }
  | .paramsInAllowed c => { r with paramsInAllowed := c }
  | .exceptParamsInAllowed c => { r with exceptParamsInAllowed := c }
  | .paramsAnywhere c => { r with paramsAnywhere := c }
  | .exceptParams c => { r with exceptParams := c }
  | .errorTip text => { r with errorTip := some text }
  | .errorIdentifier text => { r with errorIdentifier := some text }
  | .severity s => { r with severity := s }

/-- The first position at which one value is required and forbidden. -/
def conflict? (required forbidden : Conditions) : Option Nat :=
  (required.entries.find? fun (position, literal) =>
    (forbidden.get? position).any (·.agrees literal)).map (·.1)

def fault? (r : Rule) : Option RuleFault :=
  if r.calls.isEmpty then some .noCalls
  else (conflict? r.paramsInAllowed r.exceptParamsInAllowed).map .conflictingParams

/-- The rule of some clauses. -/
def assemble (kind : RuleKind) (clauses : List Clause) : Except RuleFault Rule :=
  let rule := clauses.foldl extend (blank kind)
  match rule.fault? with
  | some fault => .error fault
  | none => .ok rule

/-! ### What a rule is about -/

/-- The name in reports: the first pattern. -/
def name (r : Rule) : String :=
  match r.calls with
  | [] => ""
  | pattern :: _ => pattern.text

def isExcluded (r : Rule) (s : Symbol) : Bool :=
  r.excludes.any (·.covers s)

/-- The first pattern that matches a symbol which is not excluded. -/
def matchingPattern? (r : Rule) (s : Symbol) : Option SymbolPattern :=
  if r.isExcluded s then none else r.calls.find? (·.covers s)

end Rule

end CallPolicy
