import CallPolicy.Text.Blank
import CallPolicy.Text.Case
import CallPolicy.Text.Split

namespace CallPolicy

open Text

/-!
# Symbols: the names of functions and methods

* `undecorate` — a name without surrounding blanks, leading `\` and trailing `()`.
* `comparisonKey` — the lower-cased undecorated name; two spellings name the same callable
  exactly when their keys agree.
* `splitName` — a name taken apart at its last separator, into `Scope` and member.
* `Symbol.parse` — a symbol from its spelling.

A symbol keeps the spelling it was given, so that messages can show it, beside the key that
it is compared by.
-/

/-- What a symbol names, and how a method is called. -/
inductive SymbolKind where
  | function
  | staticMethod
  | instanceMethod
  deriving DecidableEq, Repr

def SymbolKind.isMethod : SymbolKind → Bool
  | .function => false
  | .staticMethod | .instanceMethod => true

/-! ### Scopes -/

/-- The part of a name before its member: nothing, a namespace (before `\`), or a class
(before `::`). -/
inductive Scope where
  | global
  | inNamespace (name : String)
  | inClass (name : String)
  deriving DecidableEq, Repr

namespace Scope

def isClass : Scope → Bool
  | inClass _ => true
  | _ => false

/-- The namespace or the class, as spelled. -/
def qualifier? : Scope → Option String
  | global => none
  | inNamespace name | inClass name => some name

/-- The scope with its name in lower case. -/
def lower : Scope → Scope
  | global => global
  | inNamespace name => inNamespace (String.ofList (Text.lower name.toList))
  | inClass name => inClass (String.ofList (Text.lower name.toList))

/-- The full name of a member of the scope. -/
def qualify : Scope → String → String
  | global, member => member
  | inNamespace name, member => name ++ "\\" ++ member
  | inClass name, member => name ++ "::" ++ member

end Scope

/-! ### Spelling -/

/-- A name without surrounding blanks, leading `\` and a trailing `()`. -/
def undecorate (cs : List Char) : List Char :=
  let bare := (trim cs).dropWhile (· == '\\')
  trimEnd ((stripEnd? ['(', ')'] bare).getD bare)

/-- The text by which names are compared. -/
def comparisonKey (cs : List Char) : List Char :=
  lower (undecorate cs)

/-- A name taken apart at its last `::`, or else at its last `\`. -/
def splitName (cs : List Char) : Scope × List Char :=
  match splitLast? [':', ':'] cs with
  | some (cls, member) => (.inClass (String.ofList cls), member)
  | none =>
    match splitLast? ['\\'] cs with
    | some (space, member) => (.inNamespace (String.ofList space), member)
    | none => (.global, cs)

/-! ### Symbols -/

inductive SymbolError where
  | empty
  | emptyMember (name : String)
  deriving DecidableEq, Repr

def SymbolError.message : SymbolError → String
  | empty => "symbol name must not be empty"
  | emptyMember name => s!"symbol `{name}` has no member name"

structure Symbol where
  kind : SymbolKind
  scope : Scope
  member : String
  /-- The text by which symbols are compared. -/
  key : String
  deriving DecidableEq, Repr

namespace Symbol

/-- A member of a class is a method, static unless said otherwise; all else is a function. -/
def kindIn (scope : Scope) (kind : SymbolKind) : SymbolKind :=
  if scope.isClass then if kind.isMethod then kind else .staticMethod else .function

/-- The symbol spelled `name`; `kind` only tells instance methods from static ones. -/
def parse (name : String) (kind : SymbolKind) : Except SymbolError Symbol :=
  let bare := undecorate name.toList
  if bare.isEmpty then .error .empty
  else
    let (scope, member) := splitName bare
    if member.isEmpty then .error (.emptyMember name)
    else
      .ok {
        kind := kindIn scope kind
        scope
        member := String.ofList member
        key := String.ofList (comparisonKey bare) }

def qualifier? (s : Symbol) : Option String :=
  s.scope.qualifier?

/-- The undecorated name, as spelled. -/
def display (s : Symbol) : String :=
  s.scope.qualify s.member

/-- The name as messages show it. -/
def displayCall (s : Symbol) : String :=
  s.display ++ "()"

/-- Two spellings of one callable. -/
def same (a b : Symbol) : Bool :=
  a.key == b.key

end Symbol

end CallPolicy
