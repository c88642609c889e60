import CallPolicy.Call.Site
import CallPolicy.Data.Record
import CallPolicy.Json.Parser
import CallPolicy.Text.Blank

namespace CallPolicy

open Text

/-!
# Call sites in JSON

* `SiteEntry` — a call site as written.
* `SiteEntry.site` — the call site of an entry.
* `readCallSites` — the call sites of a text, which holds one JSON list of entries or an entry
  on each line.
-/

/-! ### Kinds -/

def SymbolKind.name : SymbolKind → String
  | function => "function"
  | staticMethod => "static-method"
  | instanceMethod => "instance-method"

def SymbolKind.ofName? : String → Option SymbolKind
  | "function" => some .function
  | "static-method" => some .staticMethod
  | "instance-method" => some .instanceMethod
  | _ => none

def SymbolKind.ofDatum? (d : Datum) : Option SymbolKind :=
  Conventions.json.case? d >>= SymbolKind.ofName?

/-! ### Entries -/

/-- A call site as written. -/
structure SiteEntry where
  kind : SymbolKind
  invoked : String
  declaring : Option String
  alsoDeclaredIn : List String
  caller : Option String
  file : String
  line : UInt64
  arguments : List Argument

/-- How deep lists and tables may be nested in a text. -/
def jsonNestingLimit : Nat := 127

/-- An argument in a text in which `depth` lists and tables are open around it. -/
def readArgument? (depth : Nat) (d : Datum) : Option Argument :=
  if d.isReadable (jsonNestingLimit - depth) then some (Argument.ofJson d) else none

namespace SiteEntry

def fields : List Field :=
  [.plain "kind", .plain "invoked", .plain "declaring", .plain "also-declared-in",
    .plain "caller", .plain "file", .plain "line", .plain "args"]

/-- An entry in a text in which `depth` lists are open around it. -/
def ofDatum? (depth : Nat) (d : Datum) : Option SiteEntry := do
  let record ← Record.read? .json fields false d
  let kind ← record.required? "kind" SymbolKind.ofDatum?
  let invoked ← record.required? "invoked" Datum.text?
  let declaring ← record.optional? "declaring" Datum.text?
  let alsoDeclaredIn ← record.default? "also-declared-in" [] (Datum.listOf? Datum.text?)
  let caller ← record.optional? "caller" Datum.text?
  let file ← record.required? "file" Datum.text?
  let line ← record.required? "line" Datum.word?
  let arguments ← record.default? "args" [] (Datum.listOf? (readArgument? (depth + 2)))
  some { kind, invoked, declaring, alsoDeclaredIn, caller, file, line, arguments }

/-- A caller is a method when its name says so. -/
def callerKind (name : String) : SymbolKind :=
  if (splitLast? [':', ':'] name.toList).isSome then .instanceMethod else .function

/-- The call site of an entry. The owner of the member is what the code names, unless the entry
says otherwise. -/
def site (e : SiteEntry) : Except SymbolError CallSite := do
  let invoked ← Symbol.parse e.invoked e.kind
  let declaring ←
    match e.declaring with
    | none => .ok invoked
    | some name => Symbol.parse name e.kind
  let alsoDeclaredIn ← e.alsoDeclaredIn.mapM (Symbol.parse · e.kind)
  let caller ←
    match e.caller with
    | none => .ok none
    | some name => (Symbol.parse name (callerKind name)).map some
  .ok {
    invoked, declaring, alsoDeclaredIn, caller
    file := e.file
    line := e.line
    arguments := e.arguments }

end SiteEntry

/-! ### Texts -/

inductive CallSiteError where
  /-- The text is no JSON, or not of the shape of call sites. -/
  | malformed
  /-- A name of an entry, counted from 0, is invalid. -/
  | invalid (index : Nat) (cause : SymbolError)
  deriving DecidableEq, Repr

/-- The entries of a text. -/
def siteEntries? (cs : List Char) : Option (List SiteEntry) :=
  let cs := trimStart cs
  if cs.head? = some '[' then Json.parse? cs >>= Datum.listOf? (SiteEntry.ofDatum? 1)
  else ((lines cs).filter (!isAllBlank ·)).mapM fun line =>
    Json.parse? line >>= SiteEntry.ofDatum? 0

/-- The call sites of entries, the first of which has the given index. -/
def sitesFrom (index : Nat) : List SiteEntry → Except CallSiteError (List CallSite)
  | [] => .ok []
  | entry :: rest =>
    match entry.site with
    | .error cause => .error (.invalid index cause)
    | .ok site => (sitesFrom (index + 1) rest).map (site :: ·)

def readCallSites (text : String) : Except CallSiteError (List CallSite) :=
  match siteEntries? text.toList with
  | none => .error .malformed
  | some entries => sitesFrom 0 entries

end CallPolicy
