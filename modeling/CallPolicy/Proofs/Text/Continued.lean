import CallPolicy.Proofs.Text.Lower

namespace CallPolicy.Text

/-!
# Lower-casing and the start of a text

A longer text does not always start, in lower case, as its start does: a capital sigma that ends
the start may stand within a word of the longer text.

* `endsInSigma` — a text that ends a word in a capital sigma.
* `lower_prefix_append_iff` — this is the only start that a continuation can change, and it does so
  exactly if the word goes on.
-/

/-- The text ends a word in a capital sigma. Case-ignorable characters may follow the sigma. -/
def endsInSigma (cs : List Char) : Bool :=
  match cs.reverse.dropWhile isCaseIgnorable with
  | 'Σ' :: before => startsCased before
  | _ => false

/-! ### What a character sees of the text behind it -/

theorem startsCased_append_of_ignorable {xs : List Char} (h : ∀ c ∈ xs, isCaseIgnorable c = true)
    (ys : List Char) : startsCased (xs ++ ys) = startsCased ys := by
  induction xs with
  | nil => rfl
  | cons x xs ih =>
    rw [List.forall_mem_cons] at h
    rw [List.cons_append, startsCased_cons, if_pos h.1, ih h.2]

theorem lowerAt_congr {c : Char} (h : c ≠ 'Σ') (before after after' : List Char) :
    lowerAt before c after = lowerAt before c after' := by
  rw [lowerAt, lowerAt, if_neg h, if_neg h]

theorem lowerAfter_prefix_append {xs : List Char} (h : 'Σ' ∉ xs) (before ys : List Char) :
    lowerAfter before xs <+: lowerAfter before (xs ++ ys) := by
  induction xs generalizing before with
  | nil => exact List.nil_prefix
  | cons x xs ih =>
    rw [List.mem_cons, not_or] at h
    rw [List.cons_append, lowerAfter, lowerAfter, lowerAt_congr (Ne.symm h.1) before (xs ++ ys) xs,
      List.prefix_append_right_inj]
    exact ih h.2 _

/-! ### Starts that are continued -/

theorem isCaseIgnorable_sigma : isCaseIgnorable 'Σ' = false := by decide +kernel

theorem sigma_not_mem_of_ignorable {cs : List Char} (h : ∀ c ∈ cs, isCaseIgnorable c = true) :
    'Σ' ∉ cs := by
  intro hmem
  have hsigma := h 'Σ' hmem
  rw [isCaseIgnorable_sigma] at hsigma
  cases hsigma

/-- The form of one character, and with it all that follows, may change with what comes behind some
ignorable characters. -/
theorem lowerAfter_cons_prefix_iff {tail : List Char} (h : ∀ c ∈ tail, isCaseIgnorable c = true)
    (before : List Char) (c : Char) (ys : List Char) :
    lowerAfter before (c :: tail) <+: lowerAfter before (c :: (tail ++ ys)) ↔
      ¬ (c = 'Σ' ∧ startsCased before = true ∧ startsCased ys = true) := by
  have hrest := lowerAfter_prefix_append (sigma_not_mem_of_ignorable h) (c :: before) ys
  rw [lowerAfter, lowerAfter]
  by_cases hc : c = 'Σ'
  · subst hc
    have htail : startsCased tail = false := by
      rw [← List.append_nil tail, startsCased_append_of_ignorable h]
      rfl
    rw [lowerAt, lowerAt, if_pos rfl, if_pos rfl, startsCased_append_of_ignorable h, htail]
    by_cases hword : startsCased before = true ∧ startsCased ys = true
    · -- The sigma is final on its own, and is not where the word goes on.
      rw [hword.1, hword.2]
      simp
    · have hform : (startsCased before && !startsCased ys) = (startsCased before && !false) := by
        cases hbefore : startsCased before with
        | false => rfl
        | true => simpa [hbefore] using hword
      rw [hform, List.prefix_append_right_inj]
      exact iff_of_true hrest fun hsigma => hword hsigma.2
  · rw [lowerAt_congr hc before tail (tail ++ ys), List.prefix_append_right_inj]
    exact iff_of_true hrest fun hsigma => hc hsigma.1

/-- **Starts in lower case.** A text continued starts, in lower case, as it does alone, unless it
ends a word in a capital sigma and the word goes on. -/
theorem lower_prefix_append_iff (xs ys : List Char) :
    lower xs <+: lower (xs ++ ys) ↔ ¬ (endsInSigma xs = true ∧ startsCased ys = true) := by
  have hxs : (xs.reverse.dropWhile isCaseIgnorable).reverse ++
      (xs.reverse.takeWhile isCaseIgnorable).reverse = xs := by
    rw [← List.reverse_append, List.takeWhile_append_dropWhile, List.reverse_reverse]
  have htail : ∀ c ∈ (xs.reverse.takeWhile isCaseIgnorable).reverse, isCaseIgnorable c = true :=
    fun c hc => List.mem_takeWhile_imp (List.mem_reverse.1 hc)
  have hhead := List.head?_dropWhile_not isCaseIgnorable xs.reverse
  unfold endsInSigma
  generalize (xs.reverse.takeWhile isCaseIgnorable).reverse = tail at hxs htail
  cases hbefore : xs.reverse.dropWhile isCaseIgnorable with
  | nil =>
    rw [hbefore, List.reverse_nil, List.nil_append] at hxs
    subst hxs
    exact iff_of_true (lowerAfter_prefix_append (sigma_not_mem_of_ignorable htail) [] ys) (by simp)
  | cons c before =>
    -- The last character that is not ignored is the only one that sees the continuation.
    rw [hbefore] at hxs hhead
    have hc : isCaseIgnorable c = false := hhead
    have hseen : startsCased (c :: (tail ++ ys)) = startsCased (c :: tail) := by
      rw [startsCased_cons, startsCased_cons, hc]
      rfl
    obtain ⟨front, hfront⟩ := exists_lowerAfter_append [] before.reverse (c :: tail)
    have hshort : lower xs = front ++ lowerAfter before (c :: tail) := by
      rw [← hxs, List.reverse_cons, List.append_assoc, List.singleton_append, lower, hfront _ rfl,
        List.reverse_reverse, List.append_nil]
    have hlong : lower (xs ++ ys) = front ++ lowerAfter before (c :: (tail ++ ys)) := by
      rw [← hxs, List.reverse_cons, List.append_assoc, List.append_assoc, List.singleton_append,
        lower, hfront _ hseen, List.reverse_reverse, List.append_nil]
    rw [hshort, hlong, List.prefix_append_right_inj, lowerAfter_cons_prefix_iff htail]
    split
    · rename_i heq
      obtain ⟨rfl, rfl⟩ := List.cons.inj heq
      simp
    · rename_i hne
      refine iff_of_true (fun hsigma => ?_) (by simp)
      exact hne before (by rw [hsigma.1])

example : endsInSigma "ΟΔΟΣ'".toList = true ∧ endsInSigma "Σ".toList = false := by decide +kernel

end CallPolicy.Text
