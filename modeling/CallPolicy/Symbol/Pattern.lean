import CallPolicy.Symbol.Basic

namespace CallPolicy

open Text

/-!
# Symbol patterns

A pattern is a symbol name, or a name whose member ends in the wildcard `*`.

* `SymbolPattern.compile` — a pattern from its text.
* `SymbolPattern.covers` — whether a pattern matches a symbol, in any case of letters.
-/

inductive PatternError where
  | empty
  | emptyMember (pattern : String)
  | wildcardInQualifier (pattern : String)
  | wildcardNotTrailing (pattern : String)
  | multipleWildcards (pattern : String)
  | unsupportedMetacharacter (pattern : String)
  deriving DecidableEq, Repr

def PatternError.message : PatternError → String
  | empty => "symbol pattern must not be empty"
  | emptyMember p => s!"symbol pattern `{p}` has no member name"
  | wildcardInQualifier p =>
    s!"symbol pattern `{p}`: wildcard is only allowed at the end of the member name"
  | wildcardNotTrailing p => s!"symbol pattern `{p}`: wildcard must be the last character"
  | multipleWildcards p => s!"symbol pattern `{p}`: at most one wildcard is allowed"
  | unsupportedMetacharacter p =>
    s!"symbol pattern `{p}`: only a trailing `*` wildcard is supported"

/-- The symbols a pattern matches. -/
inductive SymbolSet where
  /-- The symbols with one comparison key. -/
  | named (key : String)
  /-- The members of a lower-case scope whose lower-case names start with `stem`. -/
  | members (scope : Scope) (stem : String)
  deriving DecidableEq, Repr

def SymbolSet.contains : SymbolSet → Symbol → Bool
  | named key, s => key == s.key
  | members scope stem, s =>
    s.scope.lower == scope && stem.toList.isPrefixOf (lower s.member.toList)

structure SymbolPattern where
  /-- The undecorated spelling. -/
  text : String
  symbols : SymbolSet
  deriving DecidableEq, Repr

namespace SymbolPattern

/-- The characters that patterns of other kinds give a meaning. -/
def isForeignWildcard (c : Char) : Bool :=
  c == '?' || c == '[' || c == ']'

/-- The symbols named by an undecorated name with a non-empty `member`, whose scope is free of
wildcards. -/
def symbolsOf (pattern : String) (bare : List Char) (scope : Scope) (member : List Char) :
    Except PatternError SymbolSet :=
  match member.count '*' with
  | 0 => .ok (.named (String.ofList (comparisonKey bare)))
  | 1 =>
    if member.getLast? = some '*' then
      .ok (.members scope.lower (String.ofList (lower member.dropLast)))
    else .error (.wildcardNotTrailing pattern)
  | _ => .error (.multipleWildcards pattern)

def compile (pattern : String) : Except PatternError SymbolPattern :=
  let bare := undecorate pattern.toList
  if bare.isEmpty then .error .empty
  else if bare.any isForeignWildcard then .error (.unsupportedMetacharacter pattern)
  else
    let (scope, member) := splitName bare
    if scope.qualifier?.any (·.toList.contains '*') then .error (.wildcardInQualifier pattern)
    else if member.isEmpty then .error (.emptyMember pattern)
    else (symbolsOf pattern bare scope member).map fun symbols =>
      { text := String.ofList bare, symbols }

def covers (p : SymbolPattern) (s : Symbol) : Bool :=
  p.symbols.contains s

def isWildcard (p : SymbolPattern) : Bool :=
  match p.symbols with
  | .named _ => false
  | .members _ _ => true

/-- The pattern as messages show it. -/
def displayCall (p : SymbolPattern) : String :=
  p.text ++ "()"

end SymbolPattern

end CallPolicy
