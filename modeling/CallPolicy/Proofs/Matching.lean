import CallPolicy.Rule.Set
import Mathlib.Data.List.Forall2

namespace CallPolicy

/-!
# What rules are about

* `Rule.IsAbout` — a pattern of the rule matches the symbol, and no exclusion does.
* `Rule.FirstPattern` — the pattern that a rule gives for a symbol.
* `Rule.matchingPattern?_isSome_iff`, `Rule.matchingPattern?_eq_some_iff` — `matchingPattern?`
  decides the one and finds the other.
* `RuleSet.mem_matchesFor_iff`, `RuleSet.pairwise_matchesFor` — `matchesFor` gives the rules that
  are about a symbol, in the order of the set.
* `RuleSet.forall₂_matchesFor` — two sets that are related rule by rule have related matches.
-/

/-! ### One rule -/

namespace Rule

/-- Some pattern of the rule matches the symbol, and no exclusion does. -/
def IsAbout (r : Rule) (s : Symbol) : Prop :=
  (∃ p ∈ r.calls, p.covers s = true) ∧ ∀ p ∈ r.excludes, p.covers s = false

/-- `p` matches the symbol and stands before all other patterns of the rule that do. -/
def FirstPattern (r : Rule) (s : Symbol) (p : SymbolPattern) : Prop :=
  ∃ i : Nat, r.calls[i]? = some p ∧ p.covers s = true ∧
    ∀ j < i, ∀ q, r.calls[j]? = some q → q.covers s = false

theorem isExcluded_eq_false_iff (r : Rule) (s : Symbol) :
    r.isExcluded s = false ↔ ∀ p ∈ r.excludes, p.covers s = false := by
  unfold isExcluded
  simp

theorem find?_calls_eq_some_iff (r : Rule) (s : Symbol) (p : SymbolPattern) :
    r.calls.find? (·.covers s) = some p ↔ r.FirstPattern s p := by
  rw [List.find?_eq_some_iff_getElem]
  constructor
  · rintro ⟨hcovers, i, hi, rfl, hbefore⟩
    refine ⟨i, List.getElem?_eq_getElem hi, hcovers, fun j hj q hq => ?_⟩
    obtain ⟨hjlen, rfl⟩ := List.getElem?_eq_some_iff.1 hq
    simpa using hbefore j hj
  · rintro ⟨i, hi, hcovers, hbefore⟩
    obtain ⟨hlen, rfl⟩ := List.getElem?_eq_some_iff.1 hi
    refine ⟨hcovers, i, hlen, rfl, fun j hj => ?_⟩
    have hj' : r.calls[j]? = some r.calls[j] := List.getElem?_eq_getElem (by omega)
    simpa using hbefore j hj _ hj'

/-- A rule gives its first pattern for a symbol that it does not exclude. -/
theorem matchingPattern?_eq_some_iff (r : Rule) (s : Symbol) (p : SymbolPattern) :
    r.matchingPattern? s = some p ↔
      (∀ q ∈ r.excludes, q.covers s = false) ∧ r.FirstPattern s p := by
  unfold matchingPattern?
  rw [← isExcluded_eq_false_iff, ← find?_calls_eq_some_iff]
  cases r.isExcluded s <;> simp

/-- A rule gives a pattern for exactly the symbols that it is about. -/
theorem matchingPattern?_isSome_iff (r : Rule) (s : Symbol) :
    (r.matchingPattern? s).isSome ↔ r.IsAbout s := by
  unfold matchingPattern? IsAbout
  rw [← isExcluded_eq_false_iff]
  cases r.isExcluded s <;> simp

theorem isAbout_of_firstPattern {r : Rule} {s : Symbol} {p : SymbolPattern}
    (hexcludes : ∀ q ∈ r.excludes, q.covers s = false) (hfirst : r.FirstPattern s p) :
    r.IsAbout s := by
  obtain ⟨i, hi, hcovers, -⟩ := hfirst
  exact ⟨⟨p, List.mem_of_getElem? hi, hcovers⟩, hexcludes⟩

theorem exists_firstPattern {r : Rule} {s : Symbol} (h : r.IsAbout s) :
    ∃ p, r.FirstPattern s p := by
  obtain ⟨p, hp⟩ := Option.isSome_iff_exists.1 ((matchingPattern?_isSome_iff r s).2 h)
  exact ⟨p, ((matchingPattern?_eq_some_iff r s p).1 hp).2⟩

end Rule

/-! ### All rules of a set -/

/-- Related lists are numbered alike. -/
theorem forall₂_zipIdx {α β : Type} {R : α → β → Prop} {xs : List α} {ys : List β}
    (h : List.Forall₂ R xs ys) (start : Nat) :
    List.Forall₂ (fun p q => R p.1 q.1 ∧ p.2 = q.2) (xs.zipIdx start) (ys.zipIdx start) := by
  induction h generalizing start with
  | nil => exact .nil
  | cons hxy _ ih =>
    rw [List.zipIdx_cons, List.zipIdx_cons]
    exact .cons ⟨hxy, rfl⟩ (ih (start + 1))

namespace RuleSet

theorem mem_matchesFor_iff (rs : RuleSet) (kind : SymbolKind) (s : Symbol) (m : RuleMatch) :
    m ∈ rs.matchesFor kind s ↔
      rs.rules[m.index]? = some m.rule ∧ m.rule.kind.appliesTo kind = true ∧
        m.rule.matchingPattern? s = some m.pattern := by
  unfold matchesFor
  rw [List.mem_filterMap]
  constructor
  · rintro ⟨⟨rule, index⟩, hmem, hm⟩
    rw [List.mk_mem_zipIdx_iff_getElem?] at hmem
    dsimp only at hm
    split at hm
    · obtain ⟨pattern, hpattern, rfl⟩ := Option.map_eq_some_iff.1 hm
      exact ⟨hmem, ‹_›, hpattern⟩
    · simp at hm
  · rintro ⟨hmem, happlies, hpattern⟩
    refine ⟨(m.rule, m.index), List.mk_mem_zipIdx_iff_getElem?.2 hmem, ?_⟩
    simp [happlies, hpattern]

/-- A match has the position of the rule that it comes from. -/
private theorem index_eq_of_match {kind : SymbolKind} {s : Symbol} {rule : Rule} {i : Nat}
    {m : RuleMatch}
    (h : (if rule.kind.appliesTo kind then
      (rule.matchingPattern? s).map fun pattern => RuleMatch.mk i rule pattern
      else none) = some m) : m.index = i := by
  split at h
  · obtain ⟨pattern, -, rfl⟩ := Option.map_eq_some_iff.1 h
    rfl
  · simp at h

/-- The rules are found in the order of the set. -/
theorem pairwise_matchesFor (rs : RuleSet) (kind : SymbolKind) (s : Symbol) :
    (rs.matchesFor kind s).Pairwise (·.index < ·.index) := by
  have hindex : rs.rules.zipIdx.Pairwise (·.2 < ·.2) := by
    rw [← List.pairwise_map, List.zipIdx_map_snd]
    exact List.pairwise_lt_range'
  -- A match keeps the position that its rule was numbered with.
  unfold matchesFor
  rw [List.pairwise_filterMap]
  refine hindex.imp ?_
  rintro ⟨rule, i⟩ ⟨rule', j⟩ hij m hm m' hm'
  rw [index_eq_of_match hm, index_eq_of_match hm']
  exact hij

/-- Two sets of rules that are related one by one, and give related patterns, have related
matches. -/
theorem forall₂_matchesFor {Q : Rule → Rule → Prop} {P : SymbolPattern → SymbolPattern → Prop}
    {rs rs' : RuleSet} {kind : SymbolKind} {s s' : Symbol}
    (h : List.Forall₂ (fun r r' => Q r r' ∧ r.kind = r'.kind ∧
      Option.Rel P (r.matchingPattern? s) (r'.matchingPattern? s')) rs.rules rs'.rules) :
    List.Forall₂ (fun m m' => m.index = m'.index ∧ Q m.rule m'.rule ∧ P m.pattern m'.pattern)
      (rs.matchesFor kind s) (rs'.matchesFor kind s') := by
  unfold matchesFor
  refine List.rel_filterMap ?_ (forall₂_zipIdx h 0)
  rintro ⟨r, i⟩ ⟨r', _⟩ ⟨⟨hrule, hkind, hpattern⟩, rfl⟩
  dsimp only
  rw [hkind]
  split
  · generalize r.matchingPattern? s = found at hpattern ⊢
    generalize r'.matchingPattern? s' = found' at hpattern ⊢
    cases hpattern with
    | none => exact .none
    | some hp => exact .some ⟨rfl, hrule, hp⟩
  · exact .none

end RuleSet

end CallPolicy
