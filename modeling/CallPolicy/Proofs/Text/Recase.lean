import CallPolicy.Proofs.Text.Lower
import CallPolicy.Text.Blank

namespace CallPolicy.Text

/-!
# The case of ASCII letters

* `Recased` — two texts differ at most in the case of ASCII letters.
* `trim_asciiLower`, `stripEnd?_asciiLower`, `splitLast?_asciiLower` — what takes texts apart takes
  them apart in the same places.
* `lowerAt_asciiLower`, `Recased.lower_eq` — the texts are the same in lower case. A capital sigma
  next to a letter does not see its case.
-/

/-- The text with its ASCII letters in lower case, and all else as it is. -/
def asciiLower (cs : List Char) : List Char :=
  cs.map Char.toLower

/-- The texts differ at most in the case of ASCII letters. -/
def Recased (cs ds : List Char) : Prop :=
  asciiLower cs = asciiLower ds

instance (cs ds : List Char) : Decidable (Recased cs ds) :=
  inferInstanceAs (Decidable (asciiLower cs = asciiLower ds))

/-! ### Characters -/

theorem toLower_of_not_isAlpha {c : Char} (h : ¬ c.isAlpha = true) : c.toLower = c := by
  refine Char.toLower_eq_of_not_isUpper fun hupper => h ?_
  rw [Char.isAlpha, hupper, Bool.true_or]

theorem isAlpha_toLower {c : Char} (h : c.isAlpha = true) : c.toLower.isAlpha = true := by
  rw [Char.isAlpha_toLower_eq_isAlpha, h]

theorem beq_eq_false_of_isAlpha {c m : Char} (hc : c.isAlpha = true) (hm : m.isAlpha = false) :
    (c == m) = false := by
  rw [beq_eq_false_iff_ne]
  rintro rfl
  rw [hm] at hc
  cases hc

/-- A test that treats all ASCII letters alike does not see their case. -/
theorem apply_toLower {α : Type} {f : Char → α} (value : α)
    (hf : ∀ c, c.isAlpha = true → f c = value) (c : Char) : f c.toLower = f c := by
  by_cases hc : c.isAlpha = true
  · rw [hf c hc, hf _ (isAlpha_toLower hc)]
  · rw [toLower_of_not_isAlpha hc]

theorem toNat_of_isAlpha {c : Char} (h : c.isAlpha = true) :
    65 ≤ c.toNat ∧ c.toNat ≤ 90 ∨ 97 ≤ c.toNat ∧ c.toNat ≤ 122 := by
  simp only [Char.isAlpha, Char.isUpper, Char.isLower, Bool.or_eq_true, Bool.and_eq_true,
    decide_eq_true_eq] at h
  exact h

theorem isBlank_toLower (c : Char) : isBlank c.toLower = isBlank c := by
  refine apply_toLower false (fun c hc => ?_) c
  have hrange := toNat_of_isAlpha hc
  unfold isBlank
  simp
  omega

theorem isCased_toLower (c : Char) : isCased c.toLower = isCased c := by
  refine apply_toLower true (fun c hc => ?_) c
  have hrange := toNat_of_isAlpha hc
  rw [isCased, if_pos (by omega), hc]

/-- A character that is no ASCII letter is found in the same places. -/
theorem toLower_eq_iff {m : Char} (hm : m.isAlpha = false) (c : Char) :
    c.toLower = m ↔ c = m := by
  have hbeq := apply_toLower (f := (· == m)) false (fun c hc => beq_eq_false_of_isAlpha hc hm) c
  rwa [Bool.eq_iff_iff, beq_iff_eq, beq_iff_eq] at hbeq

theorem beq_toLower {m : Char} (hm : m.isAlpha = false) (c : Char) :
    (c.toLower == m) = (c == m) := by
  rw [Bool.eq_iff_iff, beq_iff_eq, beq_iff_eq, toLower_eq_iff hm]

theorem isCaseIgnorable_toLower (c : Char) : isCaseIgnorable c.toLower = isCaseIgnorable c := by
  refine apply_toLower false (fun c hc => ?_) c
  have hrange := toNat_of_isAlpha hc
  -- The marks among the ignorable characters are no letters.
  have hne : ∀ m : Char, m.isAlpha = false → (c == m) = false :=
    fun m hm => beq_eq_false_of_isAlpha hc hm
  rw [isCaseIgnorable, if_pos (by omega), hne _ rfl, hne _ rfl, hne _ rfl, hne _ rfl, hne _ rfl]
  rfl

theorem lowerChar_toLower (c : Char) : lowerChar c.toLower = lowerChar c := by
  by_cases hc : c.isAlpha = true
  · have hrange := toNat_of_isAlpha hc
    have hlowerRange := toNat_of_isAlpha (isAlpha_toLower hc)
    rw [lowerChar, lowerChar, if_pos (by omega), if_pos (by omega),
      Char.toLower_toLower_eq_toLower]
  · rw [toLower_of_not_isAlpha hc]

/-! ### Cutting texts -/

theorem dropTrailing_asciiLower {p : Char → Bool} (hp : ∀ c, p c.toLower = p c)
    (cs : List Char) : dropTrailing p (asciiLower cs) = asciiLower (dropTrailing p cs) := by
  have hcomp : p ∘ Char.toLower = p := funext hp
  unfold dropTrailing asciiLower
  rw [← List.map_reverse, List.dropWhile_map, hcomp, List.map_reverse]

theorem dropWhile_asciiLower {p : Char → Bool} (hp : ∀ c, p c.toLower = p c) (cs : List Char) :
    (asciiLower cs).dropWhile p = asciiLower (cs.dropWhile p) := by
  have hcomp : p ∘ Char.toLower = p := funext hp
  unfold asciiLower
  rw [List.dropWhile_map, hcomp]

theorem trim_asciiLower (cs : List Char) : trim (asciiLower cs) = asciiLower (trim cs) := by
  unfold trim trimStart trimEnd
  rw [dropWhile_asciiLower isBlank_toLower, dropTrailing_asciiLower isBlank_toLower]

section

variable {marks : List Char} (hmarks : ∀ m ∈ marks, m.isAlpha = false)

include hmarks

theorem isPrefixOf_asciiLower (cs : List Char) :
    marks.isPrefixOf (asciiLower cs) = marks.isPrefixOf cs := by
  induction marks generalizing cs with
  | nil => simp
  | cons m marks ih =>
    cases cs with
    | nil => rfl
    | cons c rest =>
      show (m :: marks).isPrefixOf (c.toLower :: asciiLower rest) = _
      rw [List.isPrefixOf_cons_cons, List.isPrefixOf_cons_cons, Bool.beq_comm,
        beq_toLower (hmarks m List.mem_cons_self), Bool.beq_comm,
        ih fun d hd => hmarks d (List.mem_cons_of_mem m hd)]

theorem stripEnd?_asciiLower (cs : List Char) :
    stripEnd? marks (asciiLower cs) = (stripEnd? marks cs).map asciiLower := by
  have hsuffix : marks.isSuffixOf (asciiLower cs) = marks.isSuffixOf cs := by
    have hreverse : ∀ m ∈ marks.reverse, m.isAlpha = false :=
      fun m hm => hmarks m (List.mem_reverse.1 hm)
    have hprefix := isPrefixOf_asciiLower hreverse cs.reverse
    unfold asciiLower at hprefix ⊢
    rw [List.map_reverse] at hprefix
    exact hprefix
  unfold stripEnd?
  rw [hsuffix]
  split
  · -- What is cut off has as many characters in either case.
    simp [asciiLower, List.map_take]
  · rfl

theorem splitLast?_asciiLower (cs : List Char) :
    splitLast? marks (asciiLower cs) =
      (splitLast? marks cs).map (Prod.map asciiLower asciiLower) := by
  induction cs with
  | nil => rfl
  | cons c rest ih =>
    have hcut := isPrefixOf_asciiLower hmarks (c :: rest)
    show splitLast? marks (c.toLower :: asciiLower rest) = _
    cases hrest : splitLast? marks rest with
    | some cut =>
      rw [hrest] at ih
      rw [splitLast?_cons_of_some ih, splitLast?_cons_of_some hrest]
      rfl
    | none =>
      rw [hrest] at ih
      rw [splitLast?_cons_of_none ih, splitLast?_cons_of_none hrest]
      show (if marks.isPrefixOf (asciiLower (c :: rest)) then _ else none) = _
      rw [hcut]
      split
      · simp [asciiLower, List.map_drop]
      · rfl

end

/-! ### Counting characters -/

theorem any_asciiLower {p : Char → Bool} (hp : ∀ c, p c.toLower = p c) (cs : List Char) :
    (asciiLower cs).any p = cs.any p := by
  have hcomp : p ∘ Char.toLower = p := funext hp
  unfold asciiLower
  rw [List.any_map, hcomp]

theorem count_asciiLower {m : Char} (hm : m.isAlpha = false) (cs : List Char) :
    (asciiLower cs).count m = cs.count m := by
  have hcomp : (fun c => c == m) ∘ Char.toLower = fun c => c == m := funext (beq_toLower hm)
  unfold asciiLower List.count
  rw [List.countP_map, hcomp]

theorem getLast?_asciiLower_eq_some_iff {m : Char} (hm : m.isAlpha = false) (cs : List Char) :
    (asciiLower cs).getLast? = some m ↔ cs.getLast? = some m := by
  unfold asciiLower
  rw [List.getLast?_map, Option.map_eq_some_iff]
  constructor
  · rintro ⟨c, hlast, hc⟩
    rw [hlast, (toLower_eq_iff hm c).1 hc]
  · intro hlast
    exact ⟨m, hlast, (toLower_eq_iff hm m).2 rfl⟩

/-! ### Lower case -/

theorem startsCased_asciiLower (cs : List Char) : startsCased (asciiLower cs) = startsCased cs := by
  unfold startsCased
  rw [dropWhile_asciiLower isCaseIgnorable_toLower, asciiLower, List.head?_map, Option.any_map]
  simp only [isCased_toLower]

/-- A capital sigma sees letters around it, but not their case. -/
theorem lowerAt_asciiLower (before : List Char) (c : Char) (after : List Char) :
    lowerAt (asciiLower before) c.toLower (asciiLower after) = lowerAt before c after := by
  have hsigma : c.toLower = 'Σ' ↔ c = 'Σ' := toLower_eq_iff rfl c
  have hdotted : c.toLower = 'İ' ↔ c = 'İ' := toLower_eq_iff rfl c
  unfold lowerAt
  simp only [hsigma, hdotted, startsCased_asciiLower, lowerChar_toLower]

theorem lowerAfter_asciiLower (before cs : List Char) :
    lowerAfter (asciiLower before) (asciiLower cs) = lowerAfter before cs := by
  induction cs generalizing before with
  | nil => rfl
  | cons c rest ih =>
    show lowerAt (asciiLower before) c.toLower (asciiLower rest) ++
      lowerAfter (asciiLower (c :: before)) (asciiLower rest) = _
    rw [lowerAt_asciiLower, ih, lowerAfter]

theorem lower_asciiLower (cs : List Char) : lower (asciiLower cs) = lower cs :=
  lowerAfter_asciiLower [] cs

namespace Recased

variable {cs ds : List Char}

theorem isEmpty_eq (h : Recased cs ds) : cs.isEmpty = ds.isEmpty := by
  have hempty := congrArg List.isEmpty h
  rwa [asciiLower, asciiLower, List.isEmpty_map, List.isEmpty_map] at hempty

theorem any_eq (h : Recased cs ds) {p : Char → Bool} (hp : ∀ c, p c.toLower = p c) :
    cs.any p = ds.any p := by
  rw [← any_asciiLower hp, h, any_asciiLower hp]

theorem count_eq (h : Recased cs ds) {m : Char} (hm : m.isAlpha = false) :
    cs.count m = ds.count m := by
  rw [← count_asciiLower hm, h, count_asciiLower hm]

theorem getLast?_eq_some_iff (h : Recased cs ds) {m : Char} (hm : m.isAlpha = false) :
    cs.getLast? = some m ↔ ds.getLast? = some m := by
  rw [← getLast?_asciiLower_eq_some_iff hm, h, getLast?_asciiLower_eq_some_iff hm]

theorem dropLast (h : Recased cs ds) : Recased cs.dropLast ds.dropLast := by
  unfold Recased asciiLower at h ⊢
  rw [List.map_dropLast, List.map_dropLast, h]

/-- The texts are the same in lower case. -/
theorem lower_eq (h : Recased cs ds) : lower cs = lower ds := by
  rw [← lower_asciiLower, h, lower_asciiLower]

end Recased

end CallPolicy.Text
