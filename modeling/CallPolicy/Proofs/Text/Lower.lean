import CallPolicy.Proofs.Text.Split
import CallPolicy.Text.Case
import Mathlib

namespace CallPolicy.Text

/-!
# Lower-casing and the structure of a text

Lower-casing looks at one character at a time, except for a capital sigma, whose form depends on
the characters around it.

* `isMark` — the ASCII characters that are no letters. Lower-casing keeps them and makes no others.
* `splitLast?_lowerAfter_eq_none_iff` — so a separator made of marks stays where it is.
* `lowerAfter_congr`, `exists_lowerAfter_append` — of the text before and of the text behind, only
  whether they touch with a cased letter matters.
* `lower_append_break` — so texts around a character that ends words are lower-cased on their own.
* `lower_append_of_sigma_not_mem` — without a capital sigma, all texts are.
-/

/-! ### Marks -/

/-- An ASCII character that is not a letter. -/
def isMark (c : Char) : Bool :=
  c.toNat < 0x80 && !c.isAlpha

/-- The run leads to characters beyond ASCII, or from one character to the letter `k`, as it does
for the Kelvin sign. -/
def CaseRun.makesNoMarks (run : CaseRun) : Bool :=
  let first := run.first + run.shift
  let last := run.last + run.shift
  (first == last && first == 0x6B) ||
    (0x80 ≤ first && (last < 0xD800 || (0xDFFF < first && last < 0x110000)))

theorem makesNoMarks_of_mem_lowerRuns : ∀ run ∈ lowerRuns, run.makesNoMarks = true := by
  decide +kernel

theorem toNat_ofNat_of_isValidChar {n : Nat} (h : n.isValidChar) : (Char.ofNat n).toNat = n := by
  rw [Char.ofNat, dif_pos h]
  rfl

/-- A run leads to the letter `k`, or to characters beyond ASCII with the code points it says. -/
theorem toNat_ofNat_of_covers {run : CaseRun} {n : Nat} (hrun : run.makesNoMarks = true)
    (h : run.covers n = true) :
    (n + run.shift).toNat = 0x6B ∨
      (0x80 ≤ (n + run.shift).toNat ∧
        (Char.ofNat (n + run.shift).toNat).toNat = (n + run.shift).toNat) := by
  simp only [CaseRun.makesNoMarks, Bool.or_eq_true, Bool.and_eq_true, beq_iff_eq,
    decide_eq_true_eq] at hrun
  simp only [CaseRun.covers, Bool.and_eq_true, decide_eq_true_eq] at h
  obtain ⟨⟨hfirst, hlast⟩, -⟩ := h
  -- The run leads to the letter `k` alone, or all that it leads to lies beyond ASCII.
  rcases hrun with ⟨heq, hletter⟩ | ⟨hlow, hvalid⟩
  · exact Or.inl (by omega)
  · have hchar : (n + run.shift).toNat.isValidChar := by
      rcases hvalid with hlt | ⟨hgt, hlt⟩
      · exact Or.inl (by omega)
      · exact Or.inr ⟨by omega, by omega⟩
    exact Or.inr ⟨by omega, toNat_ofNat_of_isValidChar hchar⟩

theorem isMark_ofNat_of_covers {run : CaseRun} {n : Nat} (hrun : run.makesNoMarks = true)
    (h : run.covers n = true) : isMark (Char.ofNat (n + run.shift).toNat) = false := by
  rcases toNat_ofNat_of_covers hrun h with hletter | ⟨hbeyond, hchar⟩
  · rw [hletter]
    rfl
  · rw [isMark, hchar, Bool.and_eq_false_iff]
    exact Or.inl (decide_eq_false (by omega))

theorem lowerChar_of_isMark {c : Char} (h : isMark c = true) : lowerChar c = c := by
  simp only [isMark, Char.isAlpha, Bool.and_eq_true, decide_eq_true_eq, Bool.not_eq_true',
    Bool.or_eq_false_iff] at h
  rw [lowerChar, if_pos h.1, Char.toLower_eq_of_not_isUpper (by simp [h.2.1])]

theorem isMark_lowerChar {c : Char} (h : isMark c = false) : isMark (lowerChar c) = false := by
  unfold lowerChar
  split
  · rename_i hascii
    have halpha : c.isAlpha = true := by simpa [isMark, hascii] using h
    simp [isMark, halpha]
  · split
    · rename_i run hrun
      have hcovers : run.covers c.toNat = true := by simpa using List.find?_some hrun
      have hmem : run ∈ lowerRuns := List.mem_of_find?_eq_some hrun
      exact isMark_ofNat_of_covers (makesNoMarks_of_mem_lowerRuns run hmem) hcovers
    · exact h

/-! ### Characters in their place -/

theorem lowerAt_of_isMark {c : Char} (h : isMark c = true) (before after : List Char) :
    lowerAt before c after = [c] := by
  have hsigma : c ≠ 'Σ' := by rintro rfl; cases h
  have hdotted : c ≠ 'İ' := by rintro rfl; cases h
  rw [lowerAt, if_neg hsigma, if_neg hdotted, lowerChar_of_isMark h]

theorem lowerAt_ne_nil (before : List Char) (c : Char) (after : List Char) :
    lowerAt before c after ≠ [] := by
  unfold lowerAt
  repeat' split
  all_goals simp

theorem isMark_of_mem_lowerAt {before after : List Char} {c d : Char} (h : isMark c = false)
    (hd : d ∈ lowerAt before c after) : isMark d = false := by
  unfold lowerAt at hd
  split at hd
  · split at hd
    · obtain rfl := List.mem_singleton.1 hd
      rfl
    · obtain rfl := List.mem_singleton.1 hd
      rfl
  · split at hd
    · simp only [List.mem_cons, List.not_mem_nil, or_false] at hd
      rcases hd with rfl | rfl <;> rfl
    · obtain rfl := List.mem_singleton.1 hd
      exact isMark_lowerChar h

theorem ne_of_isMark {c d : Char} (hc : isMark c = true) (hd : isMark d = false) : c ≠ d := by
  rintro rfl
  rw [hc] at hd
  cases hd

theorem not_mem_lowerAt {c d : Char} (hc : isMark c = true) (hd : isMark d = false)
    (before after : List Char) : c ∉ lowerAt before d after :=
  fun hmem => ne_of_isMark hc (isMark_of_mem_lowerAt hd hmem) rfl

/-- The first character made from a character that is no mark is no mark either. -/
theorem lowerAt_eq_cons (before after : List Char) {c : Char} (h : isMark c = false) :
    ∃ d more, lowerAt before c after = d :: more ∧ isMark d = false := by
  obtain ⟨d, more, heq⟩ := List.exists_cons_of_ne_nil (lowerAt_ne_nil before c after)
  exact ⟨d, more, heq, isMark_of_mem_lowerAt h (heq ▸ List.mem_cons_self)⟩

/-! ### Marks in a lower-cased text -/

theorem mem_lowerAfter_iff {c : Char} (h : isMark c = true) (before cs : List Char) :
    c ∈ lowerAfter before cs ↔ c ∈ cs := by
  induction cs generalizing before with
  | nil => simp [lowerAfter]
  | cons d rest ih =>
    rw [lowerAfter, List.mem_append, List.mem_cons, ih]
    cases hd : isMark d with
    | true => rw [lowerAt_of_isMark hd, List.mem_singleton]
    | false =>
      have hne : c ≠ d := ne_of_isMark h hd
      have hnot : c ∉ lowerAt before d rest := not_mem_lowerAt h hd before rest
      simp [hne, hnot]

theorem isPrefixOf_lowerAfter {marks : List Char} (h : ∀ c ∈ marks, isMark c = true)
    (before cs : List Char) : marks.isPrefixOf (lowerAfter before cs) = marks.isPrefixOf cs := by
  induction marks generalizing before cs with
  | nil => simp
  | cons m marks ih =>
    cases cs with
    | nil => rfl
    | cons c rest =>
      rw [lowerAfter]
      cases hc : isMark c with
      | true =>
        rw [lowerAt_of_isMark hc, List.singleton_append, List.isPrefixOf_cons_cons,
          List.isPrefixOf_cons_cons, ih fun d hd => h d (List.mem_cons_of_mem m hd)]
      | false =>
        -- Neither `c` nor the first character made from it is the mark.
        obtain ⟨d, more, heq, hd⟩ := lowerAt_eq_cons before rest hc
        have hm : isMark m = true := h m List.mem_cons_self
        have hmc : (m == c) = false := beq_false_of_ne (ne_of_isMark hm hc)
        have hmd : (m == d) = false := beq_false_of_ne (ne_of_isMark hm hd)
        rw [heq, List.cons_append, List.isPrefixOf_cons_cons, List.isPrefixOf_cons_cons, hmc, hmd,
          Bool.false_and, Bool.false_and]

/-- A separator made of marks is found in a text exactly if it is found in lower case. -/
theorem splitLast?_lowerAfter_eq_none_iff {s : Char} {sep : List Char}
    (h : ∀ c ∈ s :: sep, isMark c = true) (before cs : List Char) :
    splitLast? (s :: sep) (lowerAfter before cs) = none ↔ splitLast? (s :: sep) cs = none := by
  induction cs generalizing before with
  | nil => rfl
  | cons c rest ih =>
    cases hc : isMark c with
    | true =>
      have hlower : lowerAfter before (c :: rest) = c :: lowerAfter (c :: before) rest := by
        rw [lowerAfter, lowerAt_of_isMark hc, List.singleton_append]
      have hprefix := isPrefixOf_lowerAfter h before (c :: rest)
      rw [hlower] at hprefix ⊢
      -- The mark is kept, so a separator starts here in lower case exactly if it did before.
      cases hrest : splitLast? (s :: sep) rest with
      | some cut =>
        have hsome : splitLast? (s :: sep) (lowerAfter (c :: before) rest) ≠ none := by
          rw [Ne, ih, hrest]
          exact Option.some_ne_none cut
        obtain ⟨cut', hcut'⟩ := Option.ne_none_iff_exists'.1 hsome
        rw [splitLast?_cons_of_some hcut', splitLast?_cons_of_some hrest]
        simp
      | none =>
        rw [splitLast?_cons_of_none ((ih _).2 hrest), splitLast?_cons_of_none hrest, hprefix]
        cases (s :: sep).isPrefixOf (c :: rest) <;> simp
    | false =>
      -- What is made from `c` holds no mark, so it neither starts nor completes a separator.
      have hs : isMark s = true := h s List.mem_cons_self
      have hnot : s ∉ lowerAt before c rest := not_mem_lowerAt hs hc before rest
      have hnotc : s ∉ [c] := by simpa using ne_of_isMark hs hc
      rw [lowerAfter, splitLast?_append_eq_none_iff hnot, ih,
        ← splitLast?_append_eq_none_iff hnotc, List.singleton_append]

/-! ### Texts side by side -/

/-- A character that ends a word, whatever stands around it. -/
def isBreak (c : Char) : Bool :=
  !isCased c && !isCaseIgnorable c

theorem startsCased_cons (c : Char) (cs : List Char) :
    startsCased (c :: cs) = if isCaseIgnorable c then startsCased cs else isCased c := by
  unfold startsCased
  cases h : isCaseIgnorable c <;> simp [h]

/-- Of the text behind, only whether it starts with a cased letter matters. -/
theorem startsCased_append_congr {ys zs : List Char} (h : startsCased ys = startsCased zs)
    (xs : List Char) : startsCased (xs ++ ys) = startsCased (xs ++ zs) := by
  induction xs with
  | nil => exact h
  | cons x xs ih => rw [List.cons_append, List.cons_append, startsCased_cons, startsCased_cons, ih]

theorem startsCased_cons_break {c : Char} (h : isBreak c = true) (cs : List Char) :
    startsCased (c :: cs) = false := by
  rw [isBreak, Bool.and_eq_true, Bool.not_eq_true', Bool.not_eq_true'] at h
  rw [startsCased_cons, h.1, h.2]
  rfl

theorem startsCased_append_break {c : Char} (h : isBreak c = true) (xs ys : List Char) :
    startsCased (xs ++ c :: ys) = startsCased xs := by
  have hseen : startsCased (c :: ys) = startsCased [] := startsCased_cons_break h ys
  rw [startsCased_append_congr hseen, List.append_nil]

/-- Of the text before, only whether it ends in a cased letter matters. -/
theorem lowerAfter_congr {before before' : List Char} (h : startsCased before = startsCased before')
    (cs : List Char) : lowerAfter before cs = lowerAfter before' cs := by
  induction cs generalizing before before' with
  | nil => rfl
  | cons c rest ih =>
    have hnext : startsCased (c :: before) = startsCased (c :: before') := by
      rw [startsCased_cons, startsCased_cons, h]
    rw [lowerAfter, lowerAfter, ih hnext, lowerAt, lowerAt, h]

/-- A text is lower-cased in one way before all texts of which it sees the same. -/
theorem exists_lowerAfter_append (before xs zs : List Char) :
    ∃ front, ∀ ys, startsCased ys = startsCased zs →
      lowerAfter before (xs ++ ys) = front ++ lowerAfter (xs.reverse ++ before) ys := by
  induction xs generalizing before with
  | nil => exact ⟨[], fun ys _ => rfl⟩
  | cons x xs ih =>
    obtain ⟨front, hfront⟩ := ih (x :: before)
    refine ⟨lowerAt before x (xs ++ zs) ++ front, fun ys hseen => ?_⟩
    have hat : lowerAt before x (xs ++ ys) = lowerAt before x (xs ++ zs) := by
      rw [lowerAt, lowerAt, startsCased_append_congr hseen]
    rw [List.cons_append, lowerAfter, hat, hfront ys hseen, List.append_assoc, List.reverse_cons,
      List.append_assoc, List.singleton_append]

/-- Before a text that does not start with a cased letter, it is lower-cased as it is at the end. -/
theorem lowerAfter_append {ys : List Char} (h : startsCased ys = false) (before xs : List Char) :
    lowerAfter before (xs ++ ys) =
      lowerAfter before xs ++ lowerAfter (xs.reverse ++ before) ys := by
  obtain ⟨front, hfront⟩ := exists_lowerAfter_append before xs []
  have hend : lowerAfter before xs = front := by simpa [lowerAfter] using hfront [] rfl
  rw [hfront ys h, hend]

/-- The texts before and after a mark that ends words are lower-cased on their own. -/
theorem lower_append_break {c : Char} (hmark : isMark c = true) (hbreak : isBreak c = true)
    (xs ys : List Char) : lower (xs ++ c :: ys) = lower xs ++ c :: lower ys := by
  have hafter : lowerAfter (c :: (xs.reverse ++ [])) ys = lowerAfter [] ys :=
    lowerAfter_congr (startsCased_cons_break hbreak _) ys
  rw [lower, lowerAfter_append (startsCased_cons_break hbreak ys), lowerAfter,
    lowerAt_of_isMark hmark, hafter]
  rfl

/-- A case-ignorable mark at the start changes nothing after it. -/
theorem lower_cons_ignorable {c : Char} (hmark : isMark c = true)
    (hignorable : isCaseIgnorable c = true) (cs : List Char) : lower (c :: cs) = c :: lower cs := by
  have hafter : startsCased [c] = startsCased [] := by rw [startsCased_cons, if_pos hignorable]
  rw [lower, lowerAfter, lowerAt_of_isMark hmark, lowerAfter_congr hafter]
  rfl

/-- Only the form of a capital sigma depends on its place. -/
theorem lowerAfter_eq_flatMap {cs : List Char} (h : 'Σ' ∉ cs) (before : List Char) :
    lowerAfter before cs = cs.flatMap fun c => lowerAt [] c [] := by
  induction cs generalizing before with
  | nil => rfl
  | cons c rest ih =>
    rw [List.mem_cons, not_or] at h
    have hat : lowerAt before c rest = lowerAt [] c [] := by
      rw [lowerAt, lowerAt, if_neg (Ne.symm h.1), if_neg (Ne.symm h.1)]
    rw [lowerAfter, ih h.2, hat, List.flatMap_cons]

theorem lower_append_of_sigma_not_mem {xs ys : List Char} (h : 'Σ' ∉ xs ++ ys) :
    lower (xs ++ ys) = lower xs ++ lower ys := by
  have hparts : 'Σ' ∉ xs ∧ 'Σ' ∉ ys := by simpa using h
  rw [lower, lower, lower, lowerAfter_eq_flatMap h, lowerAfter_eq_flatMap hparts.1,
    lowerAfter_eq_flatMap hparts.2, List.flatMap_append]

/-! ### Classes of marks -/

section

variable {p : Char → Bool} (hmark : ∀ c, p c = true → isMark c = true)

include hmark

theorem any_lower (cs : List Char) : (lower cs).any p = cs.any p := by
  rw [Bool.eq_iff_iff, List.any_eq_true, List.any_eq_true]
  constructor
  · rintro ⟨c, hmem, hc⟩
    exact ⟨c, (mem_lowerAfter_iff (hmark c hc) [] cs).1 hmem, hc⟩
  · rintro ⟨c, hmem, hc⟩
    exact ⟨c, (mem_lowerAfter_iff (hmark c hc) [] cs).2 hmem, hc⟩

/-- The text before the first of some marks that end words may be lower-cased on its own. -/
theorem takeWhile_lower (hbreak : ∀ c, p c = true → isBreak c = true) (cs : List Char) :
    (lower cs).takeWhile (!p ·) = lower (cs.takeWhile (!p ·)) := by
  have hfront : ∀ c ∈ lower (cs.takeWhile (!p ·)), (!p c) = true := by
    have hnone : (cs.takeWhile (!p ·)).any p = false := by
      rw [List.any_eq_false]
      intro c hc
      simpa using List.mem_takeWhile_imp hc
    rw [← any_lower hmark, List.any_eq_false] at hnone
    intro c hc
    simpa using hnone c hc
  have hcs : cs.takeWhile (!p ·) ++ cs.dropWhile (!p ·) = cs := List.takeWhile_append_dropWhile
  -- Either there is no such mark, or the first of them ends a word.
  cases hrest : cs.dropWhile (!p ·) with
  | nil =>
    rw [hrest, List.append_nil] at hcs
    rw [hcs] at hfront ⊢
    exact List.takeWhile_eq_self_iff.2 hfront
  | cons c rest =>
    have hc : p c = true := by
      have hhead := List.head?_dropWhile_not (!p ·) cs
      rw [hrest] at hhead
      simpa using hhead
    rw [hrest] at hcs
    have hsplit := lower_append_break (hmark c hc) (hbreak c hc) (cs.takeWhile (!p ·)) rest
    rw [hcs] at hsplit
    rw [hsplit, List.takeWhile_append_of_pos hfront, List.takeWhile_cons_of_neg (by simp [hc]),
      List.append_nil]

end

end CallPolicy.Text
