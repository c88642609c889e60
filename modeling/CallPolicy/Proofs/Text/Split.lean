import CallPolicy.Text.Split
import Mathlib.Data.List.Infix

namespace CallPolicy.Text

/-!
# Splitting and joining

* `splitLast?_eq_some_iff` — `splitLast?` cuts a text at its separator, and nothing after the cut
  holds the separator again.
* `splitLast?_eq_none_iff` — a text that cannot be cut holds no separator.
* `stripEnd?_append`, `stripEnd?_eq_none` — `stripEnd?` cuts an ending off, where there is one.
* `splitOn_eq` — `splitOn` is that of the core library, with its lemmas.
* `length_splitOn` — how many pieces there are.
* `mem_of_mem_splitOn` — the pieces hold the characters of the text, without the separator.
-/

/-! ### The last separator -/

theorem splitLast?_cons_of_none {sep rest : List Char} {c : Char}
    (h : splitLast? sep rest = none) :
    splitLast? sep (c :: rest) =
      if sep.isPrefixOf (c :: rest) then some ([], (c :: rest).drop sep.length) else none := by
  rw [splitLast?, h]

theorem splitLast?_cons_of_some {sep rest before after : List Char} {c : Char}
    (h : splitLast? sep rest = some (before, after)) :
    splitLast? sep (c :: rest) = some (c :: before, after) := by
  rw [splitLast?, h]

/-- The cut is at a separator, behind which there is no other, not even an overlapping one. -/
theorem splitLast?_eq_some_iff {s : Char} {sep cs before after : List Char} :
    splitLast? (s :: sep) cs = some (before, after) ↔
      cs = before ++ s :: sep ++ after ∧ splitLast? (s :: sep) (sep ++ after) = none := by
  induction cs generalizing before with
  | nil => simp [splitLast?]
  | cons c rest ih =>
    cases hrest : splitLast? (s :: sep) rest with
    | some cut =>
      obtain ⟨before', after'⟩ := cut
      rw [splitLast?_cons_of_some hrest]
      constructor
      · rintro ⟨⟩
        obtain ⟨rfl, hnone⟩ := ih.1 hrest
        exact ⟨rfl, hnone⟩
      · rintro ⟨heq, hnone⟩
        cases before with
        | nil =>
          -- The rest would then hold no separator.
          have hrest' : rest = sep ++ after := (List.cons.inj heq).2
          rw [hrest', hnone] at hrest
          cases hrest
        | cons b before =>
          obtain ⟨rfl, rfl⟩ := List.cons.inj heq
          rw [ih.2 ⟨rfl, hnone⟩] at hrest
          cases hrest
          rfl
    | none =>
      rw [splitLast?_cons_of_none hrest]
      constructor
      · intro h
        split at h
        · rename_i hprefix
          cases h
          obtain ⟨tail, htail⟩ := List.isPrefixOf_iff_prefix.1 hprefix
          obtain ⟨rfl, rfl⟩ := List.cons.inj htail
          simpa using hrest
        · cases h
      · rintro ⟨heq, hnone⟩
        cases before with
        | nil =>
          obtain ⟨rfl, rfl⟩ := List.cons.inj heq
          simp
        | cons b before =>
          obtain ⟨rfl, rfl⟩ := List.cons.inj heq
          rw [ih.2 ⟨rfl, hnone⟩] at hrest
          cases hrest

theorem eq_append_of_splitLast? {s : Char} {sep cs before after : List Char}
    (h : splitLast? (s :: sep) cs = some (before, after)) : cs = before ++ s :: sep ++ after :=
  (splitLast?_eq_some_iff.1 h).1

theorem splitLast?_append {s : Char} {sep after : List Char} (before : List Char)
    (h : splitLast? (s :: sep) (sep ++ after) = none) :
    splitLast? (s :: sep) (before ++ s :: sep ++ after) = some (before, after) :=
  splitLast?_eq_some_iff.2 ⟨rfl, h⟩

/-- Characters in front that are not the first of the separator do not bring a cut about. -/
theorem splitLast?_append_eq_none_iff {s : Char} {sep front cs : List Char} (h : s ∉ front) :
    splitLast? (s :: sep) (front ++ cs) = none ↔ splitLast? (s :: sep) cs = none := by
  induction front with
  | nil => rfl
  | cons c front ih =>
    rw [List.mem_cons, not_or] at h
    rw [← ih h.2, List.cons_append]
    cases hrest : splitLast? (s :: sep) (front ++ cs) with
    | some cut => simp [splitLast?, hrest]
    | none =>
      rw [splitLast?_cons_of_none hrest, List.isPrefixOf_cons_cons]
      simp [h.1]

/-- A text that cannot be cut holds no separator. -/
theorem splitLast?_eq_none_iff {s : Char} {sep cs : List Char} :
    splitLast? (s :: sep) cs = none ↔ ¬ (s :: sep) <:+: cs := by
  induction cs with
  | nil => simp [splitLast?]
  | cons c rest ih =>
    rw [List.infix_cons_iff, not_or]
    cases hrest : splitLast? (s :: sep) rest with
    | some cut =>
      have hinfix : (s :: sep) <:+: rest := by
        by_contra hnot
        rw [ih.2 hnot] at hrest
        cases hrest
      simp [splitLast?_cons_of_some hrest, hinfix]
    | none =>
      rw [splitLast?_cons_of_none hrest, ← List.isPrefixOf_iff_prefix]
      cases (s :: sep).isPrefixOf (c :: rest) <;> simp [ih.1 hrest]

theorem splitLast?_eq_none_of_part {s : Char} {sep cs part : List Char}
    (h : splitLast? (s :: sep) cs = none) (hpart : part <:+: cs) :
    splitLast? (s :: sep) part = none := by
  rw [splitLast?_eq_none_iff] at h ⊢
  exact fun hsep => h (hsep.trans hpart)

/-- A last character outside the separator does not bring a cut about. -/
theorem splitLast?_concat_eq_none {s c : Char} {sep cs : List Char}
    (h : splitLast? (s :: sep) cs = none) (hc : c ∉ s :: sep) :
    splitLast? (s :: sep) (cs ++ [c]) = none := by
  rw [splitLast?_eq_none_iff] at h ⊢
  rintro ⟨before, after, heq⟩
  rcases List.eq_nil_or_concat after with rfl | ⟨after, d, rfl⟩
  · obtain ⟨front, last, hsplit⟩ := (List.eq_nil_or_concat (s :: sep)).resolve_left (by simp)
    rw [List.append_nil, hsplit, List.concat_eq_append, ← List.append_assoc] at heq
    obtain rfl := List.singleton_inj.1 (List.append_inj' heq rfl).2
    exact hc (by simp [hsplit])
  · rw [List.concat_eq_append, ← List.append_assoc] at heq
    exact h ⟨before, after, (List.append_inj' heq rfl).1⟩

/-- One character is a separator wherever it stands. -/
theorem splitLast?_singleton_eq_none_iff {s : Char} {cs : List Char} :
    splitLast? [s] cs = none ↔ s ∉ cs := by
  rw [splitLast?_eq_none_iff, List.singleton_infix_iff]

/-! ### Endings -/

theorem stripEnd?_append (front ending : List Char) :
    stripEnd? ending (front ++ ending) = some front := by
  rw [stripEnd?, if_pos (List.isSuffixOf_iff_suffix.2 (List.suffix_append front ending))]
  simp

theorem stripEnd?_eq_none {ending cs : List Char} (h : ¬ ending <:+ cs) :
    stripEnd? ending cs = none := by
  rw [stripEnd?, if_neg (fun hsuffix => h (List.isSuffixOf_iff_suffix.1 hsuffix))]

/-! ### All separators -/

theorem splitOn_eq (sep : Char) (cs : List Char) : splitOn sep cs = cs.splitOn sep := by
  induction cs with
  | nil => rfl
  | cons c rest ih =>
    rw [List.splitOn_cons_eq_if_modifyHead, ← ih, splitOn]
    obtain ⟨piece, pieces, hpieces⟩ := List.exists_cons_of_ne_nil (splitOn_ne_nil sep rest)
    rw [hpieces]
    by_cases hc : c = sep
    · simp [hc]
    · simp [hc]

/-- There is one piece more than there are separators. -/
theorem length_splitOn (sep : Char) (cs : List Char) :
    (splitOn sep cs).length = cs.count sep + 1 := by
  induction cs with
  | nil => rfl
  | cons c rest ih =>
    rw [splitOn_eq] at ih
    rw [splitOn_eq, List.splitOn_cons_eq_if_modifyHead, List.count_cons]
    split
    · rw [List.length_cons, ih]
    · rw [List.length_modifyHead, ih, Nat.add_zero]

theorem splitOn_cons_of_ne {sep c : Char} (h : c ≠ sep) (rest : List Char) :
    splitOn sep (c :: rest) = (splitOn sep rest).modifyHead (c :: ·) := by
  rw [splitOn_eq, splitOn_eq, List.splitOn_cons_eq_if_modifyHead]
  simp [h]

theorem splitOn_append_of_not_mem {sep : Char} {front : List Char} (h : sep ∉ front)
    (cs : List Char) : splitOn sep (front ++ cs) = (splitOn sep cs).modifyHead (front ++ ·) := by
  induction front with
  | nil =>
    rw [List.nil_append]
    cases splitOn sep cs <;> rfl
  | cons c front ih =>
    rw [List.mem_cons, not_or] at h
    rw [List.cons_append, splitOn_cons_of_ne (Ne.symm h.1), ih h.2, List.modifyHead_modifyHead]
    rfl

theorem mem_of_mem_splitOn {sep c : Char} {cs piece : List Char} (hpiece : piece ∈ splitOn sep cs)
    (hc : c ∈ piece) : c ∈ cs ∧ c ≠ sep := by
  induction cs generalizing piece with
  | nil =>
    obtain rfl := List.mem_singleton.1 hpiece
    cases hc
  | cons d rest ih =>
    obtain ⟨first, more, hrest⟩ := List.exists_cons_of_ne_nil (splitOn_ne_nil sep rest)
    have hin : ∀ {x}, x ∈ first :: more → c ∈ x → c ∈ d :: rest ∧ c ≠ sep := by
      intro x hx hcx
      obtain ⟨hmem, hne⟩ := ih (hrest ▸ hx) hcx
      exact ⟨List.mem_cons_of_mem d hmem, hne⟩
    rw [splitOn, hrest] at hpiece
    dsimp only at hpiece
    split at hpiece
    · rcases List.mem_cons.1 hpiece with rfl | hmem
      · cases hc
      · exact hin hmem hc
    · rename_i hd
      rcases List.mem_cons.1 hpiece with rfl | hmem
      · rcases List.mem_cons.1 hc with rfl | hc
        · exact ⟨List.mem_cons_self, hd⟩
        · exact hin List.mem_cons_self hc
      · exact hin (List.mem_cons_of_mem first hmem) hc

end CallPolicy.Text
