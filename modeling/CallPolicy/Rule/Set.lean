import CallPolicy.Rule.Basic

namespace CallPolicy

/-!
# Rule sets

The rules of a configuration, in order. `RuleSet.matchesFor` finds those that are about a
symbol.
-/

structure RuleSet where
  rules : List Rule
  deriving DecidableEq

/-- A rule that is about a symbol. -/
structure RuleMatch where
  /-- The position of the rule in its set, counted from 0. -/
  index : Nat
  rule : Rule
  /-- The pattern by which it is about the symbol. -/
  pattern : SymbolPattern
  deriving DecidableEq

namespace RuleSet

def empty : RuleSet := ⟨[]⟩

def ofKind (s : RuleSet) (kind : RuleKind) : List Rule :=
  s.rules.filter (·.kind == kind)

/-- The rules about calls of `kind` that a symbol falls under. -/
def matchesFor (s : RuleSet) (kind : SymbolKind) (symbol : Symbol) : List RuleMatch :=
  s.rules.zipIdx.filterMap fun (rule, index) =>
    if rule.kind.appliesTo kind then
      (rule.matchingPattern? symbol).map fun pattern => { index, rule, pattern }
    else none

end RuleSet

end CallPolicy
