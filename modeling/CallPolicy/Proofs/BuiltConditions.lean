import CallPolicy.Proofs.Clauses
import CallPolicy.Proofs.ConditionTables
import CallPolicy.Proofs.Conditions
import Mathlib.Order.Bounds.Basic

namespace CallPolicy

/-!
# Conditions that are built by insertions

All conditions start from none and grow by `Conditions.insert`. Their positions are then in strict
order, so what a search comes upon first stands at the least position.

* `Conditions.Built` — conditions that insertions lead to; `Clause.IsBuilt`, `Rule.IsBuilt` —
  clauses and rules whose conditions are.
* `Conditions.Built.positions_sorted`, `Conditions.Built.isKnown` — what every insertion keeps.
* `Conditions.find?_position_eq_some_iff` — what is found first stands at the least position.
* `Conditions.HitsAt`, `Conditions.UnsureAt` — what a search looks for at a position.
* `Conditions.search_eq_hit_iff`, `Conditions.search_eq_unknown_iff` — what a search finds is the
  least position of its kind.
-/

theorem Argument.isKnown_iff (a : Argument) : a.isKnown = true ↔ a ≠ .unknown := by
  cases a <;> simp [isKnown]

namespace Conditions

/-- Conditions that insertions lead to, from none. -/
inductive Built : Conditions → Prop
  | empty : Built .empty
  | insert {c c' : Conditions} {position : Nat} {value : Argument} (hc : Built c)
      (h : c.insert position value = .ok c') : Built c'

theorem eq_or_mem_of_mem_put {position : Nat} {value : Argument} {entries : List (Nat × Argument)}
    {entry : Nat × Argument} (h : entry ∈ put position value entries) :
    entry = (position, value) ∨ entry ∈ entries := by
  induction entries with
  | nil => exact Or.inl (List.mem_singleton.1 h)
  | cons first rest ih =>
    unfold put at h
    split at h
    · exact List.mem_cons.1 h
    split at h
    · rcases List.mem_cons.1 h with hnew | hrest
      · exact Or.inl hnew
      · exact Or.inr (List.mem_cons_of_mem first hrest)
    · rcases List.mem_cons.1 h with hfirst | hrest
      · exact Or.inr (hfirst ▸ List.mem_cons_self)
      · exact (ih hrest).imp id (List.mem_cons_of_mem first)

theorem mem_of_get?_eq_some {c : Conditions} {position : Nat} {literal : Argument}
    (h : c.get? position = some literal) : (position, literal) ∈ c.entries := by
  obtain ⟨front, back, hsplit, -⟩ := List.lookup_eq_some_iff.1 h
  simp [hsplit]

namespace Built

variable {c : Conditions} (h : c.Built)

include h

theorem positions_sorted : c.positions.Pairwise (· < ·) := by
  induction h with
  | empty => exact List.Pairwise.nil
  | insert _ hinsert ih =>
    obtain ⟨-, -, rfl⟩ := insert_eq_ok_iff.1 hinsert
    exact pairwise_put ih _ _

/-- Every entry was inserted at some point. -/
theorem inserted {entry : Nat × Argument} (hentry : entry ∈ c.entries) :
    entry.1 ≠ 0 ∧ entry.2.isKnown = true := by
  induction h with
  | empty => cases hentry
  | insert _ hinsert ih =>
    obtain ⟨hposition, hvalue, rfl⟩ := insert_eq_ok_iff.1 hinsert
    rcases eq_or_mem_of_mem_put hentry with rfl | hmem
    · exact ⟨hposition, hvalue⟩
    · exact ih hmem

theorem position_ne_zero {entry : Nat × Argument} (hentry : entry ∈ c.entries) : entry.1 ≠ 0 :=
  (h.inserted hentry).1

theorem isKnown {entry : Nat × Argument} (hentry : entry ∈ c.entries) :
    entry.2.isKnown = true :=
  (h.inserted hentry).2

/-- The literal of an entry is the one that a look-up of its position gives. -/
theorem get?_of_mem {position : Nat} {literal : Argument} (hmem : (position, literal) ∈ c.entries) :
    c.get? position = some literal := by
  have hsorted := h.positions_sorted
  obtain ⟨front, back, hsplit⟩ := List.append_of_mem hmem
  rw [positions, hsplit, List.map_append, List.pairwise_append] at hsorted
  refine List.lookup_eq_some_iff.2 ⟨front, back, hsplit, fun entry hentry => ?_⟩
  -- The entries in front have smaller positions.
  have hlt : entry.1 < position :=
    hsorted.2.2 entry.1 (List.mem_map_of_mem hentry) position (by simp)
  simp only [bne_iff_ne, ne_eq]
  omega

end Built

/-! ### What a search finds -/

/-- The argument at the position agrees with the literal for it. -/
def HitsAt (c : Conditions) (arguments : List Argument) (position : Nat) : Prop :=
  ∃ literal, (position, literal) ∈ c.entries ∧ Holds arguments (position, literal)

/-- There is a literal for the position, and nothing is known of the argument there. -/
def UnsureAt (c : Conditions) (arguments : List Argument) (position : Nat) : Prop :=
  position ∈ c.positions ∧ argumentAt? arguments position = some .unknown

theorem hitsAt_iff (c : Conditions) (arguments : List Argument) (position : Nat) :
    c.HitsAt arguments position ↔ ∃ e ∈ c.entries, e.1 = position ∧
      (argumentAt? arguments e.1).any (·.agrees e.2) = true := by
  simp only [any_agrees_iff]
  constructor
  · rintro ⟨literal, hmem, hholds⟩
    exact ⟨_, hmem, rfl, hholds⟩
  · rintro ⟨e, hmem, rfl, hholds⟩
    exact ⟨e.2, hmem, hholds⟩

theorem unsureAt_iff (c : Conditions) (arguments : List Argument) (position : Nat) :
    c.UnsureAt arguments position ↔ ∃ e ∈ c.entries, e.1 = position ∧
      (argumentAt? arguments e.1).any (!·.isKnown) = true := by
  have hunknown : ∀ a : Argument, (!a.isKnown) = true ↔ a = .unknown := by
    intro a
    rw [Bool.not_eq_true', ← Bool.not_eq_true, Argument.isKnown_iff, not_not]
  simp only [UnsureAt, positions, List.mem_map, Option.any_eq_true, hunknown]
  constructor
  · rintro ⟨⟨e, hmem, rfl⟩, ha⟩
    exact ⟨e, hmem, rfl, _, ha, rfl⟩
  · rintro ⟨e, hmem, rfl, _, ha, rfl⟩
    exact ⟨⟨e, hmem, rfl⟩, ha⟩

theorem search_eq_hit_iff_find? (c : Conditions) (arguments : List Argument) (position : Nat) :
    c.search arguments = .hit position ↔
      (c.entries.find? fun e => (argumentAt? arguments e.1).any (·.agrees e.2)).map (·.1) =
        some position := by
  unfold search
  cases c.entries.find? fun e => (argumentAt? arguments e.1).any (·.agrees e.2) with
  | some entry => simp
  | none => cases c.entries.find? fun e => (argumentAt? arguments e.1).any (!·.isKnown) <;> simp

theorem search_eq_unknown_iff_find? (c : Conditions) (arguments : List Argument)
    (position : Nat) :
    c.search arguments = .unknown position ↔
      (c.entries.find? fun e => (argumentAt? arguments e.1).any (·.agrees e.2)) = none ∧
        (c.entries.find? fun e => (argumentAt? arguments e.1).any (!·.isKnown)).map (·.1) =
          some position := by
  unfold search
  cases c.entries.find? fun e => (argumentAt? arguments e.1).any (·.agrees e.2) with
  | some entry => simp
  | none => cases c.entries.find? fun e => (argumentAt? arguments e.1).any (!·.isKnown) <;> simp

/-- With the positions in strict order, the entry that is found first has the least position. -/
theorem isLeast_of_find?_eq_some {entries : List (Nat × Argument)}
    (hsorted : (entries.map (·.1)).Pairwise (· < ·)) {p : Nat × Argument → Bool}
    {entry : Nat × Argument} (h : entries.find? p = some entry) :
    IsLeast {position | ∃ e ∈ entries, e.1 = position ∧ p e = true} entry.1 := by
  obtain ⟨hp, front, back, rfl, hfront⟩ := List.find?_eq_some_iff_append.1 h
  constructor
  · exact ⟨entry, by simp, rfl, hp⟩
  · rintro _ ⟨e, he, rfl, hpe⟩
    rw [List.map_append, List.map_cons, List.pairwise_append, List.pairwise_cons] at hsorted
    rcases List.mem_append.1 he with hmem | hmem
    · have hnot := hfront e hmem
      simp [hpe] at hnot
    rcases List.mem_cons.1 hmem with rfl | hmem
    · exact Nat.le_refl _
    · exact Nat.le_of_lt (hsorted.2.1.1 e.1 (List.mem_map_of_mem hmem))

/-- No entry is found if there is no position of one. -/
theorem find?_eq_none_iff_position (entries : List (Nat × Argument)) (p : Nat × Argument → Bool) :
    entries.find? p = none ↔ ∀ position, ¬ ∃ e ∈ entries, e.1 = position ∧ p e = true := by
  rw [List.find?_eq_none]
  constructor
  · rintro hno position ⟨e, hmem, -, hpe⟩
    exact hno e hmem hpe
  · intro hno e hmem hpe
    exact hno e.1 ⟨e, hmem, rfl, hpe⟩

/-- What is found is the least position of an entry that passes the test. -/
theorem find?_position_eq_some_iff {entries : List (Nat × Argument)}
    (hsorted : (entries.map (·.1)).Pairwise (· < ·)) (p : Nat × Argument → Bool)
    (position : Nat) :
    (entries.find? p).map (·.1) = some position ↔
      IsLeast {q | ∃ e ∈ entries, e.1 = q ∧ p e = true} position := by
  constructor
  · intro h
    obtain ⟨entry, hentry, rfl⟩ := Option.map_eq_some_iff.1 h
    exact isLeast_of_find?_eq_some hsorted hentry
  · intro hleast
    obtain ⟨e, hmem, -, hpe⟩ := hleast.1
    obtain ⟨found, hfound⟩ := Option.isSome_iff_exists.1 (List.find?_isSome.2 ⟨e, hmem, hpe⟩)
    rw [hfound]
    exact congrArg some ((isLeast_of_find?_eq_some hsorted hfound).unique hleast)

section

variable {c : Conditions} (hsorted : c.positions.Pairwise (· < ·)) (arguments : List Argument)

include hsorted

/-- A search hits at the least position whose argument agrees with its literal. -/
theorem search_eq_hit_iff (position : Nat) :
    c.search arguments = .hit position ↔ IsLeast {q | c.HitsAt arguments q} position := by
  rw [search_eq_hit_iff_find?, find?_position_eq_some_iff hsorted]
  simp only [hitsAt_iff]

/-- Without a hit, a search gives the least position with an unknown argument. -/
theorem search_eq_unknown_iff (position : Nat) :
    c.search arguments = .unknown position ↔
      (∀ q, ¬ c.HitsAt arguments q) ∧ IsLeast {q | c.UnsureAt arguments q} position := by
  rw [search_eq_unknown_iff_find?, find?_position_eq_some_iff hsorted, find?_eq_none_iff_position]
  simp only [hitsAt_iff, unsureAt_iff]

end

end Conditions

/-! ### Rules -/

/-- The conditions of the clause, if it has any, are built by insertions. -/
def Clause.IsBuilt : Clause → Prop
  | .paramsInAllowed c | .exceptParamsInAllowed c | .paramsAnywhere c | .exceptParams c => c.Built
  | _ => True

/-- The conditions of the rule are built by insertions. -/
structure Rule.IsBuilt (r : Rule) : Prop where
  paramsInAllowed : r.paramsInAllowed.Built
  exceptParamsInAllowed : r.exceptParamsInAllowed.Built
  paramsAnywhere : r.paramsAnywhere.Built
  exceptParams : r.exceptParams.Built

namespace Rule

theorem IsBuilt.extend {r : Rule} (hr : r.IsBuilt) {clause : Clause} (h : clause.IsBuilt) :
    (r.extend clause).IsBuilt := by
  cases clause with
  | paramsInAllowed c => exact { hr with paramsInAllowed := h }
  | exceptParamsInAllowed c => exact { hr with exceptParamsInAllowed := h }
  | paramsAnywhere c => exact { hr with paramsAnywhere := h }
  | exceptParams c => exact { hr with exceptParams := h }
  | call _ | exclude _ | message _ | allowIn _ | allowExceptIn _ | allowInCaller _
  | allowExceptInCaller _ | errorTip _ | errorIdentifier _ | severity _ =>
    exact { hr with }

theorem IsBuilt.foldl_extend {r : Rule} (hr : r.IsBuilt) {clauses : List Clause}
    (h : ∀ clause ∈ clauses, clause.IsBuilt) : (clauses.foldl Rule.extend r).IsBuilt :=
  List.foldlRecOn clauses Rule.extend hr fun _ hs clause hclause => hs.extend (h clause hclause)

theorem isBuilt_of_clauses {clauses : List Clause} (h : ∀ clause ∈ clauses, clause.IsBuilt)
    (kind : RuleKind) : (clauses.foldl Rule.extend (.blank kind)).IsBuilt :=
  IsBuilt.foldl_extend ⟨.empty, .empty, .empty, .empty⟩ h

/-- A rule that is accepted is made of the conditions of its clauses. -/
theorem isBuilt_of_assemble {kind : RuleKind} {clauses : List Clause} {r : Rule}
    (hclauses : ∀ clause ∈ clauses, clause.IsBuilt) (h : assemble kind clauses = .ok r) :
    r.IsBuilt := by
  obtain ⟨rfl, -⟩ := assemble_eq_ok_iff.1 h
  exact isBuilt_of_clauses hclauses kind

end Rule

end CallPolicy
