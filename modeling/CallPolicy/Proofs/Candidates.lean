import CallPolicy.Call.Candidates
import Mathlib.Data.List.Basic

namespace CallPolicy

/-!
# The first item of each key

* `mem_map_key_distinctBy`, `nodup_map_key_distinctBy` — every key of the items is kept, and kept
  once.
* `distinctBy_eq_filter` — the items kept are those whose key does not occur before them.
* `mem_distinctBy_iff_of_pairwise` — in a list in ascending order, the least item of each key is
  kept.
* `forall₂_distinctFrom` — of two lists with the same keys, the same places are kept.
-/

section

variable {α β κ : Type} [BEq κ] {key : α → κ}

theorem distinctFrom_sublist (seen : List κ) (items : List α) :
    (distinctFrom key seen items).Sublist items := by
  induction items generalizing seen with
  | nil => exact .slnil
  | cons x rest ih =>
    unfold distinctFrom
    split
    · exact (ih seen).cons x
    · exact (ih (key x :: seen)).cons_cons x

/-- Keys that a map keeps decide before it and after it alike. -/
theorem distinctFrom_map (f : β → α) (seen : List κ) (items : List β) :
    distinctFrom key seen (items.map f) =
      (distinctFrom (fun b => key (f b)) seen items).map f := by
  induction items generalizing seen with
  | nil => rfl
  | cons b rest ih =>
    rw [List.map_cons, distinctFrom, distinctFrom]
    split
    · exact ih seen
    · rw [ih, List.map_cons]

/-- Of two lists with the same keys, related one by one, related items are kept. -/
theorem forall₂_distinctFrom {R : α → β → Prop} {key' : β → κ}
    (hkey : ∀ x y, R x y → key x = key' y) {items : List α} {items' : List β}
    (h : List.Forall₂ R items items') (seen : List κ) :
    List.Forall₂ R (distinctFrom key seen items) (distinctFrom key' seen items') := by
  induction h generalizing seen with
  | nil => exact .nil
  | @cons x y _ _ hxy _ ih =>
    rw [distinctFrom, distinctFrom, hkey x y hxy]
    split
    · exact ih seen
    · exact .cons hxy (ih (key' y :: seen))

/-! ### Which keys are kept -/

variable [LawfulBEq κ]

/-- The keys kept are those that were not seen before. -/
theorem mem_map_key_distinctFrom {seen : List κ} {items : List α} {k : κ} :
    k ∈ (distinctFrom key seen items).map key ↔ k ∈ items.map key ∧ k ∉ seen := by
  induction items generalizing seen with
  | nil => simp [distinctFrom]
  | cons x rest ih =>
    unfold distinctFrom
    by_cases hseen : key x ∈ seen
    · rw [if_pos (List.contains_iff_mem.2 hseen), ih]
      simp only [List.map_cons, List.mem_cons]
      constructor
      · exact fun h => ⟨Or.inr h.1, h.2⟩
      · rintro ⟨rfl | h, hk⟩
        · exact absurd hseen hk
        · exact ⟨h, hk⟩
    -- `x` is kept, and from here on its key counts as seen.
    · rw [if_neg (fun h => hseen (List.contains_iff_mem.1 h)), List.map_cons, List.mem_cons, ih]
      simp only [List.map_cons, List.mem_cons, not_or]
      constructor
      · rintro (rfl | ⟨h, -, hk⟩)
        · exact ⟨Or.inl rfl, hseen⟩
        · exact ⟨Or.inr h, hk⟩
      · rintro ⟨rfl | h, hk⟩
        · exact Or.inl rfl
        · by_cases hx : k = key x
          · exact Or.inl hx
          · exact Or.inr ⟨h, hx, hk⟩

theorem nodup_map_key_distinctFrom (seen : List κ) (items : List α) :
    ((distinctFrom key seen items).map key).Nodup := by
  induction items generalizing seen with
  | nil => simp [distinctFrom]
  | cons x rest ih =>
    unfold distinctFrom
    split
    · exact ih seen
    · rw [List.map_cons, List.nodup_cons]
      refine ⟨fun h => ?_, ih _⟩
      exact (mem_map_key_distinctFrom.1 h).2 List.mem_cons_self

/-- Every key of the items is kept. -/
theorem mem_map_key_distinctBy {items : List α} {k : κ} :
    k ∈ (distinctBy key items).map key ↔ k ∈ items.map key := by
  rw [distinctBy, mem_map_key_distinctFrom]
  simp

/-- No key is kept twice. -/
theorem nodup_map_key_distinctBy (items : List α) : ((distinctBy key items).map key).Nodup :=
  nodup_map_key_distinctFrom [] items

/-! ### Which items are kept -/

/-- The items after `done` that are kept are those whose key occurs neither in `done` nor between
`done` and them. -/
theorem distinctFrom_eq_filter {seen : List κ} (done : List α)
    (h : ∀ k, k ∈ seen ↔ k ∈ done.map key) (items : List α) :
    distinctFrom key seen items =
      ((items.zipIdx done.length).filter fun p =>
        !(((done ++ items).take p.2).map key).contains (key p.1)).map (·.1) := by
  induction items generalizing seen done with
  | nil => rfl
  | cons x rest ih =>
    have hnext : done ++ x :: rest = (done ++ [x]) ++ rest := by simp
    have hlen : done.length + 1 = (done ++ [x]).length := by simp
    have hhead : ((done ++ x :: rest).take done.length).map key = done.map key := by simp
    -- `x` moves over to `done` in both cases, and the keys seen stay the keys of `done`.
    unfold distinctFrom
    rw [List.zipIdx_cons, List.filter_cons, hhead]
    by_cases hx : key x ∈ seen
    · have hdone : key x ∈ done.map key := (h _).1 hx
      have hnew : ∀ k, k ∈ seen ↔ k ∈ (done ++ [x]).map key := by
        intro k
        rw [h, List.map_append, List.mem_append]
        constructor
        · exact Or.inl
        · rintro (hk | hk)
          · exact hk
          · rw [List.map_singleton, List.mem_singleton] at hk
            exact hk ▸ hdone
      rw [if_pos (List.contains_iff_mem.2 hx), List.contains_iff_mem.2 hdone]
      rw [hnext, hlen]
      exact ih _ hnew
    · have hdone : key x ∉ done.map key := fun hk => hx ((h _).2 hk)
      have hnew : ∀ k, k ∈ key x :: seen ↔ k ∈ (done ++ [x]).map key := by
        intro k
        rw [List.mem_cons, h, List.map_append, List.mem_append, List.map_singleton,
          List.mem_singleton]
        exact or_comm
      have hfalse : (done.map key).contains (key x) = false := by simpa using hdone
      rw [if_neg (fun hc => hx (List.contains_iff_mem.1 hc)), hfalse]
      rw [hnext, hlen]
      exact congrArg (x :: ·) (ih _ hnew)

/-- The items kept are those whose key does not occur before them. -/
theorem distinctBy_eq_filter (items : List α) :
    distinctBy key items =
      (items.zipIdx.filter fun p => !((items.take p.2).map key).contains (key p.1)).map (·.1) :=
  distinctFrom_eq_filter [] (by simp) items

/-- In ascending order, an item is kept when its key was not seen and no smaller item has it. -/
theorem mem_distinctFrom_iff_of_pairwise {R : α → α → Prop} {items : List α}
    (horder : items.Pairwise R) (hasymm : ∀ x y, R x y → ¬ R y x) {seen : List κ} {x : α} :
    x ∈ distinctFrom key seen items ↔
      x ∈ items ∧ key x ∉ seen ∧ ∀ y ∈ items, R y x → key y ≠ key x := by
  induction items generalizing seen with
  | nil => simp [distinctFrom]
  | cons a rest ih =>
    obtain ⟨ha, hrest⟩ := List.pairwise_cons.1 horder
    have hirrefl : ∀ b, ¬ R b b := fun b hb => hasymm b b hb hb
    unfold distinctFrom
    by_cases hseen : key a ∈ seen
    · rw [if_pos (List.contains_iff_mem.2 hseen), ih hrest]
      constructor
      · rintro ⟨hx, hk, hleast⟩
        refine ⟨List.mem_cons_of_mem a hx, hk, ?_⟩
        rintro y hy hR heq
        obtain rfl | hy := List.mem_cons.1 hy
        · exact hk (heq ▸ hseen)
        · exact hleast y hy hR heq
      · rintro ⟨hx, hk, hleast⟩
        obtain rfl | hx := List.mem_cons.1 hx
        · exact absurd hseen hk
        · exact ⟨hx, hk, fun y hy => hleast y (List.mem_cons_of_mem a hy)⟩
    -- `a` is the least, so it is kept itself and hides the later items with its key.
    · rw [if_neg (fun hc => hseen (List.contains_iff_mem.1 hc)), List.mem_cons, ih hrest]
      constructor
      · rintro (rfl | ⟨hx, hk, hleast⟩)
        · refine ⟨List.mem_cons_self, hseen, ?_⟩
          rintro y hy hR -
          obtain rfl | hy := List.mem_cons.1 hy
          · exact hirrefl _ hR
          · exact hasymm _ _ hR (ha y hy)
        · rw [List.mem_cons, not_or] at hk
          refine ⟨List.mem_cons_of_mem a hx, hk.2, ?_⟩
          rintro y hy hR heq
          obtain rfl | hy := List.mem_cons.1 hy
          · exact hk.1 heq.symm
          · exact hleast y hy hR heq
      · rintro ⟨hx, hk, hleast⟩
        obtain rfl | hx := List.mem_cons.1 hx
        · exact Or.inl rfl
        · refine Or.inr ⟨hx, ?_, fun y hy => hleast y (List.mem_cons_of_mem a hy)⟩
          rw [List.mem_cons, not_or]
          exact ⟨fun heq => hleast a List.mem_cons_self (ha x hx) heq.symm, hk⟩

theorem mem_distinctBy_iff_of_pairwise {R : α → α → Prop} {items : List α}
    (horder : items.Pairwise R) (hasymm : ∀ x y, R x y → ¬ R y x) {x : α} :
    x ∈ distinctBy key items ↔ x ∈ items ∧ ∀ y ∈ items, R y x → key y ≠ key x := by
  rw [distinctBy, mem_distinctFrom_iff_of_pairwise horder hasymm]
  simp

end

/-! ### The candidates of a call -/

namespace CallSite

/-- All names that the member of a call is declared under, its owner first. -/
def declared (c : CallSite) : List Symbol :=
  c.declaring :: c.alsoDeclaredIn

theorem mem_map_key_candidates (c : CallSite) (k : String) :
    k ∈ c.candidates.map (·.key) ↔ k ∈ c.declared.map (·.key) :=
  mem_map_key_distinctBy

theorem nodup_map_key_candidates (c : CallSite) : (c.candidates.map (·.key)).Nodup :=
  nodup_map_key_distinctBy _

theorem candidates_sublist (c : CallSite) : c.candidates.Sublist c.declared :=
  distinctFrom_sublist [] _

theorem candidates_eq_filter (c : CallSite) :
    c.candidates = (c.declared.zipIdx.filter fun p =>
      !((c.declared.take p.2).map (·.key)).contains p.1.key).map (·.1) :=
  distinctBy_eq_filter _

end CallSite

end CallPolicy
