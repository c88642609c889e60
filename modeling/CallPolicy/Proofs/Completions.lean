import CallPolicy.Proofs.Agreement
import CallPolicy.Proofs.BuiltConditions

namespace CallPolicy

/-!
# Conditions on arguments that are partly unknown

An unknown argument stands for any literal. This file compares what conditions decide about
arguments of which some are unknown with what they decide about those that these may stand for.

* `Argument.CompletedBy` — a literal in the place of an unknown argument, all else as it was.
* `Conditions.missing`, `Conditions.meeting` — the completions with the least and the most hits:
  `Conditions.holds_of_missing`, `Conditions.hits_meeting_of_unsureAt`.
* `Conditions.search_completions` — so a search is clear, hits or is unsure exactly if no completion
  hits, all do, or only some.
-/

namespace Argument

/-- The argument is kept if it is known, and replaced by some literal if it is not. -/
inductive CompletedBy : Argument → Argument → Prop
  | kept {a : Argument} (h : a.isKnown = true) : CompletedBy a a
  | replaced {b : Argument} (h : b.isKnown = true) : CompletedBy .unknown b

theorem CompletedBy.refinedBy {a b : Argument} (h : a.CompletedBy b) : a.RefinedBy b := by
  cases h with
  | kept _ => exact Or.inl rfl
  | replaced h => exact Or.inr ⟨rfl, h⟩

end Argument

/-! ### Completions -/

/-- The arguments are completed: a literal stands in the place of each unknown one. -/
abbrev Completes (arguments completed : List Argument) : Prop :=
  List.Forall₂ Argument.CompletedBy arguments completed

theorem Completes.refined {arguments completed : List Argument}
    (h : Completes arguments completed) : List.Forall₂ Argument.RefinedBy arguments completed :=
  h.imp fun _ _ hab => hab.refinedBy

/-- The arguments with the literal for its position in the place of each unknown one. -/
def fillUnknown (literalFor : Nat → Argument) (arguments : List Argument) : List Argument :=
  arguments.mapIdx fun i a => if a = .unknown then literalFor (i + 1) else a

theorem completes_fillUnknown {literalFor : Nat → Argument}
    (h : ∀ position, (literalFor position).isKnown = true) (arguments : List Argument) :
    Completes arguments (fillUnknown literalFor arguments) := by
  unfold fillUnknown
  induction arguments generalizing literalFor with
  | nil => exact .nil
  | cons a rest ih =>
    rw [List.mapIdx_cons]
    refine .cons ?_ (ih fun position => h (position + 1))
    by_cases ha : a = .unknown
    · rw [if_pos ha, ha]
      exact .replaced (h 1)
    · rw [if_neg ha]
      exact .kept (a.isKnown_iff.2 ha)

/-- Where nothing was known, the literal for the position now stands. -/
theorem argumentAt?_fillUnknown {arguments : List Argument} {position : Nat}
    (h : argumentAt? arguments position = some .unknown) (literalFor : Nat → Argument) :
    argumentAt? (fillUnknown literalFor arguments) position = some (literalFor position) := by
  cases position with
  | zero => simp [argumentAt?] at h
  | succ i =>
    have hi : arguments[i]? = some .unknown := h
    show (fillUnknown literalFor arguments)[i]? = _
    simp [fillUnknown, List.getElem?_mapIdx, hi]

namespace Conditions

/-- Some position holds its literal. -/
def Hits (c : Conditions) (arguments : List Argument) : Prop :=
  ∃ entry ∈ c.entries, Holds arguments entry

/-- The literal of a position, or null where there is none. -/
def literalAt (c : Conditions) (position : Nat) : Argument :=
  (c.get? position).getD .null

/-- The completion by literals that do not agree with those of their positions. -/
def missing (c : Conditions) (arguments : List Argument) : List Argument :=
  fillUnknown (fun position => (c.literalAt position).otherThan) arguments

/-- The completion by the literals of their positions. -/
def meeting (c : Conditions) (arguments : List Argument) : List Argument :=
  fillUnknown c.literalAt arguments

section

variable {c : Conditions} {arguments completed : List Argument}

theorem completes_missing (c : Conditions) (arguments : List Argument) :
    Completes arguments (c.missing arguments) :=
  completes_fillUnknown (fun position => (c.literalAt position).isKnown_otherThan) arguments

/-- What is hit stays hit. -/
theorem Hits.of_completes (h : c.Hits arguments) (hcompletes : Completes arguments completed) :
    c.Hits completed := by
  obtain ⟨entry, hentry, hholds⟩ := h
  exact ⟨entry, hentry, holds_of_refined hcompletes.refined hholds⟩

theorem not_hits_of_search_eq_clear (h : c.search arguments = .clear)
    (hcompletes : Completes arguments completed) : ¬ c.Hits completed := by
  intro hhits
  have hclear : c.search completed = .clear := search_eq_clear_of_refined hcompletes.refined h
  obtain ⟨position, hhit⟩ := (exists_search_eq_hit_iff c completed).2 hhits
  rw [hclear] at hhit
  cases hhit

theorem hits_of_search_eq_hit {position : Nat} (h : c.search arguments = .hit position)
    (hcompletes : Completes arguments completed) : c.Hits completed := by
  have hhits : c.Hits arguments := (exists_search_eq_hit_iff c arguments).1 ⟨position, h⟩
  exact hhits.of_completes hcompletes

section

variable (hbuilt : c.Built)

include hbuilt

theorem isKnown_literalAt (position : Nat) : (c.literalAt position).isKnown = true := by
  unfold literalAt
  cases hget : c.get? position with
  | none => rfl
  | some literal => exact hbuilt.isKnown (mem_of_get?_eq_some hget)

theorem literalAt_of_mem {position : Nat} {literal : Argument}
    (hmem : (position, literal) ∈ c.entries) : c.literalAt position = literal := by
  unfold literalAt
  rw [hbuilt.get?_of_mem hmem]
  rfl

/-- An entry holds in the missing completion only if it holds already. -/
theorem holds_of_missing {entry : Nat × Argument} (hmem : entry ∈ c.entries)
    (h : Holds (c.missing arguments) entry) : Holds arguments entry := by
  obtain ⟨b, hb, hagrees⟩ := h
  obtain ⟨a, ha, hab⟩ := argumentAt?_of_refined' (completes_missing c arguments).refined hb
  by_cases hunknown : a = .unknown
  · -- The literal that was filled in does not agree with the one of the entry.
    rw [hunknown] at ha
    have hfilled : argumentAt? (c.missing arguments) entry.1 =
        some (c.literalAt entry.1).otherThan := argumentAt?_fillUnknown ha _
    have heq : b = (c.literalAt entry.1).otherThan := Option.some.inj (hb.symm.trans hfilled)
    rw [heq, literalAt_of_mem hbuilt hmem, Argument.agrees_otherThan] at hagrees
    cases hagrees
  · have hknown : a.isKnown = true := a.isKnown_iff.2 hunknown
    have heq : b = a := hab.eq_of_isKnown hknown
    exact ⟨a, ha, heq ▸ hagrees⟩

/-- All conditions hold exactly if they do however the unknown arguments are completed. -/
theorem allHold_iff_completes :
    c.allHold arguments = true ↔ ∀ completed, Completes arguments completed →
      ∀ entry ∈ c.entries, Holds completed entry := by
  constructor
  · intro hhold completed hcompletes
    exact (allHold_iff c completed).1 (allHold_of_refined hcompletes.refined hhold)
  · intro hall
    rw [allHold_iff]
    intro entry hentry
    exact holds_of_missing hbuilt hentry (hall _ (completes_missing c arguments) entry hentry)

variable (hnan : ∀ entry ∈ c.entries, ¬ entry.2.IsNaN)

include hnan

/-- The meeting completion hits wherever nothing is known. -/
theorem hits_meeting_of_unsureAt {position : Nat} (h : c.UnsureAt arguments position) :
    c.Hits (c.meeting arguments) := by
  obtain ⟨hmem, hunknown⟩ := h
  obtain ⟨entry, hentry, rfl⟩ := List.mem_map.1 hmem
  have hagrees : entry.2.agrees entry.2 = true :=
    Argument.agrees_self (hbuilt.isKnown hentry) (hnan entry hentry)
  have hfilled : argumentAt? (c.meeting arguments) entry.1 = some (c.literalAt entry.1) :=
    argumentAt?_fillUnknown hunknown _
  rw [literalAt_of_mem hbuilt hentry] at hfilled
  exact ⟨entry, hentry, entry.2, hfilled, hagrees⟩

/-- A search that is unsure leaves both possible. -/
theorem exists_completes_of_search_eq_unknown {position : Nat}
    (h : c.search arguments = .unknown position) :
    (∃ completed, Completes arguments completed ∧ c.Hits completed) ∧
      ∃ completed, Completes arguments completed ∧ ¬ c.Hits completed := by
  obtain ⟨hno, hleast⟩ := (search_eq_unknown_iff hbuilt.positions_sorted arguments position).1 h
  constructor
  · refine ⟨c.meeting arguments, ?_, hits_meeting_of_unsureAt hbuilt hnan hleast.1⟩
    exact completes_fillUnknown (isKnown_literalAt hbuilt) arguments
  · refine ⟨c.missing arguments, completes_missing c arguments, ?_⟩
    rintro ⟨entry, hentry, hholds⟩
    exact hno entry.1 ⟨entry.2, hentry, holds_of_missing hbuilt hentry hholds⟩

/-! ### What a search says of completions -/

theorem search_eq_clear_iff_completes :
    c.search arguments = .clear ↔
      ∀ completed, Completes arguments completed → ¬ c.Hits completed := by
  constructor
  · intro hclear completed hcompletes
    exact not_hits_of_search_eq_clear hclear hcompletes
  · intro hnone
    have hmissing : Completes arguments (c.missing arguments) := completes_missing c arguments
    cases hsearch : c.search arguments with
    | clear => rfl
    | hit position => exact absurd (hits_of_search_eq_hit hsearch hmissing) (hnone _ hmissing)
    | unknown position =>
      obtain ⟨⟨completed, hcompletes, hhits⟩, -⟩ :=
        exists_completes_of_search_eq_unknown hbuilt hnan hsearch
      exact absurd hhits (hnone completed hcompletes)

theorem exists_search_eq_hit_iff_completes :
    (∃ position, c.search arguments = .hit position) ↔
      ∀ completed, Completes arguments completed → c.Hits completed := by
  constructor
  · rintro ⟨position, hhit⟩ completed hcompletes
    exact hits_of_search_eq_hit hhit hcompletes
  · intro hall
    have hmissing : Completes arguments (c.missing arguments) := completes_missing c arguments
    cases hsearch : c.search arguments with
    | hit position => exact ⟨position, rfl⟩
    | clear => exact absurd (hall _ hmissing) (not_hits_of_search_eq_clear hsearch hmissing)
    | unknown position =>
      obtain ⟨-, completed, hcompletes, hnot⟩ :=
        exists_completes_of_search_eq_unknown hbuilt hnan hsearch
      exact absurd (hall completed hcompletes) hnot

theorem exists_search_eq_unknown_iff_completes :
    (∃ position, c.search arguments = .unknown position) ↔
      (∃ completed, Completes arguments completed ∧ c.Hits completed) ∧
        ∃ completed, Completes arguments completed ∧ ¬ c.Hits completed := by
  constructor
  · rintro ⟨position, hunknown⟩
    exact exists_completes_of_search_eq_unknown hbuilt hnan hunknown
  · rintro ⟨⟨xs, hxs, hhits⟩, ys, hys, hnot⟩
    cases hsearch : c.search arguments with
    | unknown position => exact ⟨position, rfl⟩
    | clear => exact absurd hhits (not_hits_of_search_eq_clear hsearch hxs)
    | hit position => exact absurd (hits_of_search_eq_hit hsearch hys) hnot

/-- **Partly unknown arguments.** Let conditions be built by insertions, none of their literals
being NaN. A search is clear exactly if no completion of the arguments hits, it hits exactly if all
of them do, and it is unsure exactly if some do and some do not. It names the least position that is
hit, or else the least one with an unknown argument. All conditions hold exactly if they hold of
every completion. -/
theorem search_completions (arguments : List Argument) :
    (c.search arguments = .clear ↔
      ∀ completed, Completes arguments completed → ¬ c.Hits completed) ∧
    ((∃ position, c.search arguments = .hit position) ↔
      ∀ completed, Completes arguments completed → c.Hits completed) ∧
    (∀ position, c.search arguments = .hit position →
      IsLeast {q | c.HitsAt arguments q} position) ∧
    ((∃ position, c.search arguments = .unknown position) ↔
      (∃ completed, Completes arguments completed ∧ c.Hits completed) ∧
        ∃ completed, Completes arguments completed ∧ ¬ c.Hits completed) ∧
    (∀ position, c.search arguments = .unknown position →
      IsLeast {q | c.UnsureAt arguments q} position) ∧
    (c.allHold arguments = true ↔ ∀ completed, Completes arguments completed →
      ∀ entry ∈ c.entries, Holds completed entry) := by
  have hsorted := hbuilt.positions_sorted
  refine ⟨search_eq_clear_iff_completes hbuilt hnan, exists_search_eq_hit_iff_completes hbuilt hnan,
    fun position hhit => ?_, exists_search_eq_unknown_iff_completes hbuilt hnan,
    fun position hunknown => ?_, allHold_iff_completes hbuilt⟩
  · exact (search_eq_hit_iff hsorted arguments position).1 hhit
  · exact ((search_eq_unknown_iff hsorted arguments position).1 hunknown).2

end

end

/-- Zero is forbidden at position 1, and `'y'` at position 3. -/
def zeroAndY : Conditions :=
  ⟨[(1, .float 0.0), (3, .text "y")]⟩

theorem built_zeroAndY : zeroAndY.Built := by
  have hone : empty.insert 1 (.float 0.0) = .ok ⟨[(1, .float 0.0)]⟩ := rfl
  have htwo : insert ⟨[(1, .float 0.0)]⟩ 3 (.text "y") = .ok zeroAndY := rfl
  exact (Built.empty.insert hone).insert htwo

theorem not_isNaN_zeroAndY : ∀ entry ∈ zeroAndY.entries, ¬ entry.2.IsNaN := by
  have hzero : ¬ (Argument.float 0.0).IsNaN := by
    show ¬ (0.0 : Float).isNaN = true
    decide +kernel
  exact List.forall_mem_cons.2 ⟨hzero, List.forall_mem_singleton.2 nofun⟩

/-- A hit at position 3 is one whatever the unknown argument at position 1 is, and so is minus zero;
without the hit it may or may not come to one. -/
theorem search_completions_zeroAndY :
    zeroAndY.Built ∧ (∀ entry ∈ zeroAndY.entries, ¬ entry.2.IsNaN) ∧
      (∀ completed, Completes [.unknown, .null, .text "y"] completed → zeroAndY.Hits completed) ∧
      (∀ completed, Completes [.float (-0.0), .unknown] completed → zeroAndY.Hits completed) ∧
      (∃ completed, Completes [.unknown, .unknown] completed ∧ zeroAndY.Hits completed) ∧
      ∃ completed, Completes [.unknown, .unknown] completed ∧ ¬ zeroAndY.Hits completed := by
  have hnan := not_isNaN_zeroAndY
  have hunknown : zeroAndY.search [.unknown, .unknown] = .unknown 1 := by decide +kernel
  obtain ⟨-, hhit, -⟩ := search_completions built_zeroAndY hnan [.unknown, .null, .text "y"]
  obtain ⟨-, hminus, -⟩ := search_completions built_zeroAndY hnan [.float (-0.0), .unknown]
  obtain ⟨-, -, -, hunsure, -⟩ := search_completions built_zeroAndY hnan [.unknown, .unknown]
  exact ⟨built_zeroAndY, hnan, hhit.1 ⟨3, by decide +kernel⟩, hminus.1 ⟨1, by decide +kernel⟩,
    hunsure.1 ⟨1, hunknown⟩⟩

end Conditions

end CallPolicy
