import CallPolicy.Proofs.Text.Settled

namespace CallPolicy.Text

/-!
# Lower-casing and the characters around names

* `isInert` — marks and blanks. Lower-casing keeps them and makes no others, and no sigma takes them
  for a part of its word.
* `dropWhile_lower`, `dropTrailing_lower`, `stripEnd?_lower` — so they may be cut off a text before
  or after it is lower-cased.
-/

/-! ### Marks and blanks -/

/-- A character that stands around names: a mark or a blank. -/
def isInert (c : Char) : Bool :=
  isMark c || isBlank c

/-- The blank characters beyond ASCII. -/
def blankRanges : List (Nat × Nat) :=
  [(0x85, 0x85), (0xA0, 0xA0), (0x1680, 0x1680), (0x2000, 0x200A), (0x2028, 0x2029),
   (0x202F, 0x202F), (0x205F, 0x205F), (0x3000, 0x3000)]

theorem isBlank_eq_inRanges {c : Char} (h : ¬ c.toNat < 0x80) :
    isBlank c = inRanges blankRanges c.toNat := by
  unfold isBlank inRanges blankRanges
  generalize c.toNat = n at h
  rw [Bool.eq_iff_iff]
  simp only [Bool.or_eq_true, Bool.and_eq_true, decide_eq_true_eq, beq_iff_eq, List.any_cons,
    List.any_nil, Bool.false_eq_true, or_false]
  omega

/-- The run covers no blanks and leads to none. -/
theorem blankRanges_of_mem_lowerRuns : ∀ run ∈ lowerRuns, ∀ range ∈ blankRanges,
    (run.last < range.1 ∨ range.2 < run.first) ∧
      (run.last + run.shift < range.1 ∨ range.2 < run.first + run.shift) := by
  decide +kernel

theorem blankRanges_of_mem_casedRanges : ∀ range ∈ casedRanges, ∀ blank ∈ blankRanges,
    range.2 < blank.1 ∨ blank.2 < range.1 := by
  decide +kernel

theorem isMark_of_isInert_of_ascii {c : Char} (h : isInert c = true) (hascii : c.toNat < 0x80) :
    isMark c = true := by
  by_contra hnot
  have halpha : c.isAlpha = true := by simpa [isMark, hascii] using hnot
  have hblank : isBlank c = true := by simpa [isInert, hnot] using h
  have hrange := toNat_of_isAlpha halpha
  simp only [isBlank, Bool.or_eq_true, Bool.and_eq_true, decide_eq_true_eq, beq_iff_eq] at hblank
  omega

theorem exists_blankRange {c : Char} (h : isInert c = true) (hascii : ¬ c.toNat < 0x80) :
    ∃ range ∈ blankRanges, range.1 ≤ c.toNat ∧ c.toNat ≤ range.2 := by
  have hmark : isMark c = false := by simp [isMark, hascii]
  rw [isInert, hmark, Bool.false_or, isBlank_eq_inRanges hascii] at h
  exact inRanges_eq_true_iff.1 h

theorem lowerChar_of_isInert {c : Char} (h : isInert c = true) : lowerChar c = c := by
  by_cases hascii : c.toNat < 0x80
  · exact lowerChar_of_isMark (isMark_of_isInert_of_ascii h hascii)
  · obtain ⟨range, hrange, hfirst, hlast⟩ := exists_blankRange h hascii
    refine lowerChar_of_not_covers hascii fun run hrun => ?_
    have hapart := (blankRanges_of_mem_lowerRuns run hrun range hrange).1
    rw [← Bool.not_eq_true]
    intro hcovers
    simp only [CaseRun.covers, Bool.and_eq_true, decide_eq_true_eq] at hcovers
    omega

theorem lowerAt_of_isInert {c : Char} (h : isInert c = true) (before after : List Char) :
    lowerAt before c after = [c] := by
  have hsigma : c ≠ 'Σ' := by rintro rfl; exact absurd h (by decide)
  have hdotted : c ≠ 'İ' := by rintro rfl; exact absurd h (by decide)
  rw [lowerAt, if_neg hsigma, if_neg hdotted, lowerChar_of_isInert h]

theorem isCased_of_isInert {c : Char} (h : isInert c = true) : isCased c = false := by
  by_cases hascii : c.toNat < 0x80
  · have hmark := isMark_of_isInert_of_ascii h hascii
    simp only [isMark, Bool.and_eq_true, Bool.not_eq_true'] at hmark
    rw [isCased, if_pos hascii, hmark.2]
  · obtain ⟨blank, hblank, hfirst, hlast⟩ := exists_blankRange h hascii
    rw [isCased, if_neg hascii, ← Bool.not_eq_true, inRanges_eq_true_iff]
    rintro ⟨range, hrange, hle, hge⟩
    have hapart := blankRanges_of_mem_casedRanges range hrange blank hblank
    omega

theorem isInert_lowerChar {c : Char} (h : isInert c = false) : isInert (lowerChar c) = false := by
  rw [isInert, Bool.or_eq_false_iff] at h ⊢
  refine ⟨isMark_lowerChar h.1, ?_⟩
  unfold lowerChar
  split
  · rw [isBlank_toLower, h.2]
  · split
    · rename_i run hfind
      have hcovers : run.covers c.toNat = true := by simpa using List.find?_some hfind
      have hrun : run ∈ lowerRuns := List.mem_of_find?_eq_some hfind
      rcases toNat_ofNat_of_covers (makesNoMarks_of_mem_lowerRuns run hrun) hcovers with
        hletter | ⟨hbeyond, hchar⟩
      · rw [hletter]
        rfl
      · rw [isBlank_eq_inRanges (by rw [hchar]; omega), hchar, ← Bool.not_eq_true,
          inRanges_eq_true_iff]
        rintro ⟨range, hrange, hfirst, hlast⟩
        have hapart := (blankRanges_of_mem_lowerRuns run hrun range hrange).2
        simp only [CaseRun.covers, Bool.and_eq_true, decide_eq_true_eq] at hcovers
        omega
    · exact h.2

theorem isInert_of_mem_lowerAt {before after : List Char} {c d : Char} (h : isInert c = false)
    (hd : d ∈ lowerAt before c after) : isInert d = false := by
  have hspecial : specialForms.all (!isInert ·) = true := by decide +kernel
  rcases mem_lowerAt_cases hd with hd | ⟨-, rfl⟩
  · simpa using List.all_eq_true.1 hspecial d hd
  · exact isInert_lowerChar h

/-! ### Texts that start or end in such a character -/

theorem startsCased_inert {c : Char} (h : isInert c = true) : startsCased [c] = false := by
  rw [startsCased_cons, isCased_of_isInert h]
  exact ite_self false

theorem lower_cons_inert {c : Char} (h : isInert c = true) (cs : List Char) :
    lower (c :: cs) = c :: lower cs := by
  have hseen : startsCased [c] = startsCased [] := startsCased_inert h
  rw [lower, lowerAfter, lowerAt_of_isInert h, lowerAfter_congr hseen]
  rfl

theorem lowerAfter_concat_inert {c : Char} (h : isInert c = true) (before cs : List Char) :
    lowerAfter before (cs ++ [c]) = lowerAfter before cs ++ [c] := by
  rw [lowerAfter_append (startsCased_inert h), lowerAfter, lowerAt_of_isInert h]
  rfl

theorem lower_append_inert {cs back : List Char} (h : ∀ c ∈ back, isInert c = true) :
    lower (cs ++ back) = lower cs ++ back := by
  induction back using List.reverseRecOn with
  | nil => rw [List.append_nil, List.append_nil]
  | append_singleton back c ih =>
    rw [List.forall_mem_append, List.forall_mem_singleton] at h
    rw [← List.append_assoc, lower, lowerAfter_concat_inert h.2, ← List.append_assoc]
    exact congrArg (· ++ [c]) (ih h.1)

/-- Any other first character leads to a first character of its kind. -/
theorem exists_lower_cons {c : Char} (h : isInert c = false) (cs : List Char) :
    ∃ d rest, lower (c :: cs) = d :: rest ∧ isInert d = false := by
  obtain ⟨d, more, heq⟩ := List.exists_cons_of_ne_nil (lowerAt_ne_nil [] c cs)
  refine ⟨d, more ++ lowerAfter [c] cs, by rw [lower, lowerAfter, heq, List.cons_append], ?_⟩
  exact isInert_of_mem_lowerAt h (heq ▸ List.mem_cons_self)

/-- Any other last character leads to a last character of its kind. -/
theorem exists_lower_concat {c : Char} (h : isInert c = false) (cs : List Char) :
    ∃ front d, lower (cs ++ [c]) = front ++ [d] ∧ isInert d = false := by
  obtain ⟨front, hfront⟩ := exists_lowerAfter_append [] cs [c]
  have hlast : lowerAfter (cs.reverse ++ []) [c] = lowerAt (cs.reverse ++ []) c [] :=
    List.append_nil _
  obtain ⟨more, d, heq⟩ := (List.eq_nil_or_concat _).resolve_left
    (lowerAt_ne_nil (cs.reverse ++ []) c [])
  refine ⟨front ++ more, d, ?_, isInert_of_mem_lowerAt h (by rw [heq]; simp)⟩
  rw [lower, hfront [c] rfl, hlast, heq, List.concat_eq_append, List.append_assoc]

/-! ### Cutting such characters off -/

section

variable {p : Char → Bool} (hp : ∀ c, p c = true → isInert c = true)

include hp

theorem dropWhile_lower (cs : List Char) : (lower cs).dropWhile p = lower (cs.dropWhile p) := by
  induction cs with
  | nil => rfl
  | cons c rest ih =>
    by_cases hc : p c = true
    · rw [lower_cons_inert (hp c hc), List.dropWhile_cons_of_pos hc, List.dropWhile_cons_of_pos hc,
        ih]
    · -- The first character stays, or becomes another one that stays.
      obtain ⟨d, more, heq, hd⟩ : ∃ d more, lower (c :: rest) = d :: more ∧ ¬ p d = true := by
        by_cases hinert : isInert c = true
        · exact ⟨c, lower rest, lower_cons_inert hinert rest, hc⟩
        · obtain ⟨d, more, heq, hd⟩ := exists_lower_cons (Bool.eq_false_iff.2 hinert) rest
          exact ⟨d, more, heq, fun hpd => by rw [hp d hpd] at hd; cases hd⟩
      rw [List.dropWhile_cons_of_neg hc, heq, List.dropWhile_cons_of_neg hd]

theorem dropTrailing_lower (cs : List Char) :
    dropTrailing p (lower cs) = lower (dropTrailing p cs) := by
  show (lower cs).rdropWhile p = lower (cs.rdropWhile p)
  induction cs using List.reverseRecOn with
  | nil => rfl
  | append_singleton cs c ih =>
    by_cases hc : p c = true
    · have hlower : lower (cs ++ [c]) = lower cs ++ [c] := lowerAfter_concat_inert (hp c hc) [] cs
      rw [hlower, List.rdropWhile_concat_pos p _ _ hc, List.rdropWhile_concat_pos p _ _ hc, ih]
    · obtain ⟨front, d, heq, hd⟩ : ∃ front d, lower (cs ++ [c]) = front ++ [d] ∧ ¬ p d = true := by
        by_cases hinert : isInert c = true
        · exact ⟨lower cs, c, lowerAfter_concat_inert hinert [] cs, hc⟩
        · obtain ⟨front, d, heq, hd⟩ := exists_lower_concat (Bool.eq_false_iff.2 hinert) cs
          exact ⟨front, d, heq, fun hpd => by rw [hp d hpd] at hd; cases hd⟩
      rw [List.rdropWhile_concat_neg p _ _ hc, heq, List.rdropWhile_concat_neg p _ _ hd]

end

theorem concat_suffix_concat_iff {xs ys : List Char} {c d : Char} :
    xs ++ [c] <:+ ys ++ [d] ↔ xs <:+ ys ∧ c = d := by
  have hlength : [c].length = [d].length := rfl
  rw [List.suffix_append_inj_of_length_eq hlength, List.singleton_inj]

section

variable {marks : List Char} (h : ∀ c ∈ marks, isInert c = true)

include h

theorem suffix_lower_iff (cs : List Char) : marks <:+ lower cs ↔ marks <:+ cs := by
  constructor
  · intro hsuffix
    induction marks using List.reverseRecOn generalizing cs with
    | nil => exact List.nil_suffix
    | append_singleton marks m ih =>
      rw [List.forall_mem_append, List.forall_mem_singleton] at h
      rcases List.eq_nil_or_concat cs with rfl | ⟨front, c, rfl⟩
      · exact hsuffix
      rw [List.concat_eq_append] at hsuffix ⊢
      by_cases hc : isInert c = true
      · rw [lower, lowerAfter_concat_inert hc, concat_suffix_concat_iff] at hsuffix
        rw [concat_suffix_concat_iff]
        exact ⟨ih h.1 front hsuffix.1, hsuffix.2⟩
      · -- The last mark is not what is made of another character.
        obtain ⟨more, d, heq, hd⟩ := exists_lower_concat (Bool.eq_false_iff.2 hc) front
        rw [heq, concat_suffix_concat_iff] at hsuffix
        rw [← hsuffix.2, h.2] at hd
        cases hd
  · rintro ⟨front, rfl⟩
    rw [lower_append_inert h]
    exact List.suffix_append (lower front) marks

theorem stripEnd?_lower (cs : List Char) :
    stripEnd? marks (lower cs) = (stripEnd? marks cs).map lower := by
  by_cases hsuffix : marks <:+ cs
  · obtain ⟨front, rfl⟩ := hsuffix
    rw [lower_append_inert h, stripEnd?_append, stripEnd?_append]
    rfl
  · rw [stripEnd?_eq_none hsuffix, stripEnd?_eq_none (fun hlower =>
      hsuffix ((suffix_lower_iff h cs).1 hlower))]
    rfl

end

end CallPolicy.Text
