import Mathlib.Data.List.Forall2

namespace CallPolicy

/-!
# Outcomes of two runs

`SameOutcome E R` relates the outcomes of two runs that may fail: both fail, with errors related by
`E`, or both succeed, with results related by `R`.
-/

/-- A result that was turned into another one was there before. -/
theorem exists_of_map_eq_ok {ε α β : Type} {x : Except ε α} {f : α → β} {b : β}
    (h : x.map f = .ok b) : ∃ a, x = .ok a ∧ b = f a := by
  cases x with
  | error e => cases h
  | ok a => exact ⟨a, rfl, (Except.ok.inj h).symm⟩

theorem map_eq_error_iff {ε α β : Type} {x : Except ε α} {f : α → β} {e : ε} :
    x.map f = .error e ↔ x = .error e := by
  cases x <;> simp [Except.map]

/-- A run that ends well went well up to each point, and from there on. -/
theorem exists_of_bind_eq_ok {ε α β : Type} {x : Except ε α} {f : α → Except ε β} {b : β}
    (h : x >>= f = .ok b) : ∃ a, x = .ok a ∧ f a = .ok b := by
  cases x with
  | error e => cases h
  | ok a => exact ⟨a, rfl, h⟩

/-- A run through a list succeeds exactly if it does for each item, and gives the results in
order. -/
theorem mapM_eq_ok_iff {ε α β : Type} {f : α → Except ε β} {xs : List α} {ys : List β} :
    xs.mapM f = .ok ys ↔ List.Forall₂ (fun x y => f x = .ok y) xs ys := by
  induction xs generalizing ys with
  | nil =>
    rw [List.mapM_nil, List.forall₂_nil_left_iff]
    exact ⟨fun h => (Except.ok.inj h).symm, fun h => h ▸ rfl⟩
  | cons x rest ih =>
    rw [List.mapM_cons, List.forall₂_cons_left_iff]
    constructor
    · intro h
      obtain ⟨y, hy, hmore⟩ := exists_of_bind_eq_ok h
      obtain ⟨more, hrest, hmade⟩ := exists_of_bind_eq_ok hmore
      exact ⟨y, more, hy, ih.1 hrest, (Except.ok.inj hmade).symm⟩
    · rintro ⟨y, more, hy, hrest, rfl⟩
      rw [hy, ih.2 hrest]
      rfl

theorem mapM_cons_eq_error_iff {ε α β : Type} {f : α → Except ε β} {x : α} {rest : List α} {e : ε} :
    (x :: rest).mapM f = .error e ↔
      f x = .error e ∨ (∃ y, f x = .ok y) ∧ rest.mapM f = .error e := by
  rw [List.mapM_cons]
  cases f x with
  | error e' =>
    constructor
    · intro h
      exact Or.inl (congrArg Except.error (Except.error.inj h))
    · rintro (h | ⟨⟨y, ⟨⟩⟩, -⟩)
      exact congrArg Except.error (Except.error.inj h)
  | ok y =>
    cases rest.mapM f with
    | error e' =>
      constructor
      · intro h
        exact Or.inr ⟨⟨y, rfl⟩, h⟩
      · rintro (⟨⟨⟩⟩ | ⟨-, h⟩)
        exact h
    | ok more => exact ⟨nofun, nofun⟩

/-- It fails exactly with the error of the first item that fails. -/
theorem mapM_eq_error_iff {ε α β : Type} {f : α → Except ε β} {xs : List α} {e : ε} :
    xs.mapM f = .error e ↔ ∃ before x after, xs = before ++ x :: after ∧
      (∀ w ∈ before, ∃ y, f w = .ok y) ∧ f x = .error e := by
  induction xs with
  | nil => exact ⟨nofun, fun ⟨_, _, _, h, _⟩ => absurd h (by simp)⟩
  | cons x rest ih =>
    rw [mapM_cons_eq_error_iff, ih]
    constructor
    · rintro (hx | ⟨hx, before, w, after, rfl, hbefore, hw⟩)
      · exact ⟨[], x, rest, rfl, List.forall_mem_nil _, hx⟩
      · exact ⟨x :: before, w, after, rfl, List.forall_mem_cons.2 ⟨hx, hbefore⟩, hw⟩
    · rintro ⟨before, w, after, hsplit, hbefore, hw⟩
      cases before with
      | nil =>
        obtain ⟨rfl, -⟩ := List.cons.inj hsplit
        exact Or.inl hw
      | cons first before =>
        obtain ⟨rfl, rfl⟩ := List.cons.inj hsplit
        rw [List.forall_mem_cons] at hbefore
        exact Or.inr ⟨hbefore.1, before, w, after, rfl, hbefore.2, hw⟩

/-- A test that stops a run with an error is the first of several. -/
theorem ite_eq_error_iff {ε α : Type} {c : Prop} [Decidable c] {x : Except ε α} {a e : ε}
    {errors : List ε} {P : ε → Prop} [DecidablePred P] (htest : c ↔ P a)
    (hrest : ¬ c → (x = .error e ↔ errors.find? (P ·) = some e)) :
    (if c then .error a else x) = .error e ↔ (a :: errors).find? (P ·) = some e := by
  by_cases hc : c
  · rw [if_pos hc, List.find?_cons_of_pos (by simpa using htest.1 hc), Except.error.injEq,
      Option.some.injEq]
  · rw [if_neg hc, List.find?_cons_of_neg (by simpa using fun ha => hc (htest.2 ha)), hrest hc]

inductive SameOutcome {ε ε' α β : Type} (E : ε → ε' → Prop) (R : α → β → Prop) :
    Except ε α → Except ε' β → Prop
  | ok {a : α} {b : β} : R a b → SameOutcome E R (.ok a) (.ok b)
  | error {e : ε} {e' : ε'} : E e e' → SameOutcome E R (.error e) (.error e')

namespace SameOutcome

variable {ε ε' α β γ δ : Type} {E : ε → ε' → Prop} {R : α → β → Prop} {x : Except ε α}
  {y : Except ε' β}

/-- What follows from related results may follow in both runs. -/
theorem map {S : γ → δ → Prop} {f : α → γ} {g : β → δ} (h : SameOutcome E R x y)
    (hfg : ∀ a b, R a b → S (f a) (g b)) : SameOutcome E S (x.map f) (y.map g) := by
  cases h with
  | ok hab => exact .ok (hfg _ _ hab)
  | error he => exact .error he

/-- What is done with related results may have the same outcome. -/
theorem bind {S : γ → δ → Prop} {f : α → Except ε γ} {g : β → Except ε' δ}
    (h : SameOutcome E R x y) (hfg : ∀ a b, R a b → SameOutcome E S (f a) (g b)) :
    SameOutcome E S (x >>= f) (y >>= g) := by
  cases h with
  | ok hab => exact hfg _ _ hab
  | error he => exact .error he

/-- Two runs through one list stop at the same item, if at all. -/
theorem mapM {ι : Type} {S : γ → δ → Prop} {f : ι → Except ε γ} {g : ι → Except ε' δ}
    {items : List ι} (hfg : ∀ i ∈ items, SameOutcome E S (f i) (g i)) :
    SameOutcome E (List.Forall₂ S) (items.mapM f) (items.mapM g) := by
  induction items with
  | nil => exact .ok .nil
  | cons i rest ih =>
    rw [List.forall_mem_cons] at hfg
    rw [List.mapM_cons, List.mapM_cons]
    exact hfg.1.bind fun _ _ hi => (ih hfg.2).bind fun _ _ hrest => .ok (.cons hi hrest)

/-- A test that gives the same answer in both runs may stop them with related errors. -/
theorem stop_if {c : Prop} [Decidable c] {e : ε} {e' : ε'} (he : E e e')
    (h : SameOutcome E R x y) :
    SameOutcome E R (if c then .error e else x) (if c then .error e' else y) := by
  split
  · exact .error he
  · exact h

/-- The two outcomes, written out. -/
theorem ok_or_error (h : SameOutcome E R x y) :
    (∃ a b, x = .ok a ∧ y = .ok b ∧ R a b) ∨ ∃ e e', x = .error e ∧ y = .error e' ∧ E e e' := by
  cases h with
  | ok hab => exact Or.inl ⟨_, _, rfl, rfl, hab⟩
  | error he => exact Or.inr ⟨_, _, rfl, rfl, he⟩

/-- Results may be related by more, or by less, that follows from how they came about. -/
theorem imp {S : α → β → Prop} (h : SameOutcome E R x y)
    (hS : ∀ a b, x = .ok a → y = .ok b → R a b → S a b) : SameOutcome E S x y := by
  cases h with
  | ok hab => exact .ok (hS _ _ rfl rfl hab)
  | error he => exact .error he

/-- If one run succeeds, so does the other. -/
theorem exists_of_eq_ok {a : α} (h : SameOutcome E R x y) (hx : x = .ok a) :
    ∃ b, y = .ok b ∧ R a b := by
  subst hx
  cases h with
  | ok hab => exact ⟨_, rfl, hab⟩

end SameOutcome

end CallPolicy
