import CallPolicy.Argument.Conditions
import Mathlib.Data.List.Forall2

namespace CallPolicy

/-!
# What conditions say about arguments

* `Conditions.allHold_iff`, `Conditions.exists_search_eq_hit_iff`,
  `Conditions.search_eq_clear_iff` — what is decided about a list of arguments, entry by entry.
* `Argument.RefinedBy` — the order of knowledge on arguments: a literal may take the place of an
  unknown argument.
* `Conditions.allHold_of_refined`, `Conditions.search_eq_clear_of_refined` — what holds of
  arguments that are partly unknown holds whatever the unknown ones are.
-/

namespace Conditions

/-! ### Entry by entry -/

/-- The argument at the position of the entry agrees with its literal. -/
def Holds (arguments : List Argument) (entry : Nat × Argument) : Prop :=
  ∃ a, argumentAt? arguments entry.1 = some a ∧ a.agrees entry.2 = true

theorem any_agrees_iff (arguments : List Argument) (entry : Nat × Argument) :
    (argumentAt? arguments entry.1).any (·.agrees entry.2) = true ↔ Holds arguments entry := by
  unfold Holds
  rw [Option.any_eq_true]

theorem allHold_iff (c : Conditions) (arguments : List Argument) :
    c.allHold arguments = true ↔ ∀ entry ∈ c.entries, Holds arguments entry := by
  unfold allHold
  rw [List.all_eq_true]
  exact forall₂_congr fun entry _ => any_agrees_iff arguments entry

/-- A search hits exactly if some entry holds. -/
theorem exists_search_eq_hit_iff (c : Conditions) (arguments : List Argument) :
    (∃ position, c.search arguments = .hit position) ↔
      ∃ entry ∈ c.entries, Holds arguments entry := by
  simp only [← any_agrees_iff]
  rw [← List.find?_isSome]
  unfold search
  cases c.entries.find? fun entry =>
      (argumentAt? arguments entry.1).any (·.agrees entry.2) with
  | some entry => simp
  | none => cases c.entries.find? _ <;> simp

/-- A search is clear exactly if the argument at each position, where there is one, is known to
disagree. -/
theorem search_eq_clear_iff (c : Conditions) (arguments : List Argument) :
    c.search arguments = .clear ↔
      ∀ entry ∈ c.entries, ∀ a, argumentAt? arguments entry.1 = some a →
        a.agrees entry.2 = false ∧ a.isKnown = true := by
  -- Both passes over the entries, for a hit and for an unknown argument, find nothing.
  have hnone : c.search arguments = .clear ↔
      (∀ entry ∈ c.entries, ¬ (argumentAt? arguments entry.1).any (·.agrees entry.2) = true) ∧
        ∀ entry ∈ c.entries, ¬ (argumentAt? arguments entry.1).any (!·.isKnown) = true := by
    rw [← List.find?_eq_none, ← List.find?_eq_none]
    unfold search
    cases c.entries.find? fun entry =>
        (argumentAt? arguments entry.1).any (·.agrees entry.2) with
    | some entry => simp
    | none => cases c.entries.find? _ <;> simp
  rw [hnone]
  constructor
  · rintro ⟨hdisagree, hknown⟩ entry hentry a ha
    have h₁ := hdisagree entry hentry
    have h₂ := hknown entry hentry
    rw [ha] at h₁ h₂
    simpa using And.intro h₁ h₂
  · intro h
    constructor
    · intro entry hentry hany
      obtain ⟨a, ha, hagrees⟩ := (Option.any_eq_true _ _).1 hany
      rw [(h entry hentry a ha).1] at hagrees
      exact Bool.false_ne_true hagrees
    · intro entry hentry hany
      obtain ⟨a, ha, hunknown⟩ := (Option.any_eq_true _ _).1 hany
      rw [(h entry hentry a ha).2] at hunknown
      exact Bool.false_ne_true hunknown

/-! ### No conditions -/

section

variable {c : Conditions} (h : c.isEmpty = true) (arguments : List Argument)

include h

theorem search_of_isEmpty : c.search arguments = .clear := by
  have hentries : c.entries = [] := List.isEmpty_iff.1 h
  rw [search_eq_clear_iff, hentries]
  exact List.forall_mem_nil _

theorem allHold_of_isEmpty : c.allHold arguments = true := by
  have hentries : c.entries = [] := List.isEmpty_iff.1 h
  rw [allHold_iff, hentries]
  exact List.forall_mem_nil _

end

end Conditions

/-! ### The order of knowledge -/

/-- `b` is the argument `a`, or any literal if `a` is unknown. -/
def Argument.RefinedBy (a b : Argument) : Prop :=
  b = a ∨ a = .unknown ∧ b.isKnown = true

theorem Argument.RefinedBy.eq_of_isKnown {a b : Argument} (h : a.RefinedBy b)
    (hknown : a.isKnown = true) : b = a := by
  rcases h with rfl | ⟨rfl, -⟩
  · rfl
  · exact absurd hknown Bool.false_ne_true

/-- An argument that agrees with something is a literal. -/
theorem Argument.isKnown_of_agrees {a b : Argument} (h : a.agrees b = true) : a.isKnown = true := by
  cases a with
  | unknown => simp [agrees] at h
  | null | bool _ | int _ | float _ | text _ => rfl

section

variable {as bs : List Argument} (hrefined : List.Forall₂ Argument.RefinedBy as bs)

include hrefined

theorem getElem?_of_refined {i : Nat} {a : Argument} (ha : as[i]? = some a) :
    ∃ b, bs[i]? = some b ∧ a.RefinedBy b := by
  obtain ⟨hi, rfl⟩ := List.getElem?_eq_some_iff.1 ha
  have hlen := hrefined.length_eq
  exact ⟨bs[i], List.getElem?_eq_getElem (by omega), hrefined.get hi (by omega)⟩

theorem getElem?_of_refined' {i : Nat} {b : Argument} (hb : bs[i]? = some b) :
    ∃ a, as[i]? = some a ∧ a.RefinedBy b := by
  obtain ⟨hi, rfl⟩ := List.getElem?_eq_some_iff.1 hb
  have hlen := hrefined.length_eq
  exact ⟨as[i], List.getElem?_eq_getElem (by omega), hrefined.get (by omega) hi⟩

/-- What was known of a position is kept. -/
theorem argumentAt?_of_refined {position : Nat} {a : Argument}
    (ha : argumentAt? as position = some a) (hknown : a.isKnown = true) :
    argumentAt? bs position = some a := by
  cases position with
  | zero => simp [argumentAt?] at ha
  | succ i =>
    obtain ⟨b, hb, hab⟩ := getElem?_of_refined hrefined ha
    exact (hab.eq_of_isKnown hknown) ▸ hb

/-- No position gets an argument that had none. -/
theorem argumentAt?_of_refined' {position : Nat} {b : Argument}
    (hb : argumentAt? bs position = some b) :
    ∃ a, argumentAt? as position = some a ∧ a.RefinedBy b := by
  cases position with
  | zero => simp [argumentAt?] at hb
  | succ i => exact getElem?_of_refined' hrefined hb

namespace Conditions

theorem holds_of_refined {entry : Nat × Argument} (h : Holds as entry) : Holds bs entry := by
  obtain ⟨a, ha, hagrees⟩ := h
  exact ⟨a, argumentAt?_of_refined hrefined ha (Argument.isKnown_of_agrees hagrees), hagrees⟩

/-- Conditions that hold go on to hold when more is known. -/
theorem allHold_of_refined {c : Conditions} (h : c.allHold as = true) : c.allHold bs = true := by
  rw [allHold_iff] at h ⊢
  exact fun entry hentry => holds_of_refined hrefined (h entry hentry)

/-- A clear search stays clear when more is known. -/
theorem search_eq_clear_of_refined {c : Conditions} (h : c.search as = .clear) :
    c.search bs = .clear := by
  rw [search_eq_clear_iff] at h ⊢
  intro entry hentry b hb
  obtain ⟨a, ha, hab⟩ := argumentAt?_of_refined' hrefined hb
  obtain ⟨hdisagree, hknown⟩ := h entry hentry a ha
  obtain rfl := hab.eq_of_isKnown hknown
  exact ⟨hdisagree, hknown⟩

end Conditions

end

end CallPolicy
