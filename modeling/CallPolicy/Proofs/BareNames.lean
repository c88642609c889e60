import CallPolicy.Proofs.Spelling
import CallPolicy.Proofs.Text.Inert

namespace CallPolicy

open Text

/-!
# Names without decoration

Undecorating takes the decoration off in one pass: blanks, then backslashes, then one pair of
brackets, then blanks at the end. What it leaves may be decorated still, by blanks that stood behind
the backslashes or by a second pair of brackets.

* `IsBare` — a name without any decoration.
* `undecorate_eq_self_iff` — these are the names that undecorating leaves as they are.
* `undecorate_called`, `undecorate_called_eq_iff` — the pair of brackets that messages put behind a
  name is taken off again.
* `undecorate_lower` — undecorating and lower-casing may be done in either order.
-/

/-- No blank or backslash stands in front of the name, no blank behind it, and it does not end in
`()`. -/
structure IsBare (cs : List Char) : Prop where
  first : cs.head?.any (fun c => isBlank c || c == '\\') = false
  last : cs.getLast?.any isBlank = false
  brackets : ¬ ['(', ')'] <:+ cs

theorem any_or_eq_false_iff {o : Option Char} {p q : Char → Bool} :
    o.any (fun c => p c || q c) = false ↔ o.any p = false ∧ o.any q = false := by
  cases o <;> simp

theorem IsBare.head?_any_isBlank {cs : List Char} (h : IsBare cs) : cs.head?.any isBlank = false :=
  (any_or_eq_false_iff.1 h.first).1

theorem IsBare.head?_any_slash {cs : List Char} (h : IsBare cs) :
    cs.head?.any (· == '\\') = false :=
  (any_or_eq_false_iff.1 h.first).2

/-! ### Texts that are cut nowhere -/

theorem dropWhile_eq_self_iff {p : Char → Bool} {cs : List Char} :
    cs.dropWhile p = cs ↔ cs.head?.any p = false := by
  rw [List.dropWhile_eq_self_iff]
  cases cs <;> simp

theorem dropTrailing_eq_self_iff {p : Char → Bool} {cs : List Char} :
    dropTrailing p cs = cs ↔ cs.getLast?.any p = false := by
  show cs.rdropWhile p = cs ↔ _
  rw [List.rdropWhile_eq_self_iff]
  rcases List.eq_nil_or_concat cs with rfl | ⟨front, c, rfl⟩ <;> simp

theorem trimEnd_undecorate (cs : List Char) : trimEnd (undecorate cs) = undecorate cs :=
  List.rdropWhile_idempotent isBlank _

theorem undecorate_of_isBare {cs : List Char} (h : IsBare cs) : undecorate cs = cs := by
  have hlast : trimEnd cs = cs := dropTrailing_eq_self_iff.2 h.last
  have htrim : trim cs = cs := by
    rw [trim, trimStart, dropWhile_eq_self_iff.2 h.head?_any_isBlank, hlast]
  rw [undecorate, htrim, dropWhile_eq_self_iff.2 h.head?_any_slash, stripEnd?_eq_none h.brackets,
    Option.getD_none, hlast]

/-- If the name is as long as it was, nothing has been cut off at any point. -/
theorem isBare_of_undecorate_eq {cs : List Char} (h : undecorate cs = cs) : IsBare cs := by
  have hbare : cs.length ≤ ((trim cs).dropWhile (· == '\\')).length := by
    simpa only [h] using (undecorate_isPrefix cs).length_le
  have hslashes : ((trim cs).dropWhile (· == '\\')).length ≤ (trim cs).length :=
    (List.dropWhile_suffix _).length_le
  have hend : (trim cs).length ≤ (trimStart cs).length := (trimEnd_isPrefix _).length_le
  -- Each pass gives a shorter text or the same one, so it gives the same one.
  have hstart : trimStart cs = cs :=
    (List.dropWhile_suffix isBlank).eq_of_length_le ((hbare.trans hslashes).trans hend)
  have htrim : trimEnd cs = cs := by
    rw [trim, hstart] at hbare hslashes
    exact (trimEnd_isPrefix cs).eq_of_length_le (hbare.trans hslashes)
  have hslash : cs.dropWhile (· == '\\') = cs := by
    rw [trim, hstart, htrim] at hbare
    exact (List.dropWhile_suffix _).eq_of_length_le hbare
  constructor
  case first =>
    exact any_or_eq_false_iff.2
      ⟨dropWhile_eq_self_iff.1 hstart, dropWhile_eq_self_iff.1 hslash⟩
  case last => exact dropTrailing_eq_self_iff.1 htrim
  case brackets =>
    rintro ⟨front, rfl⟩
    -- The brackets would have been cut off.
    rw [undecorate, trim, hstart, htrim, hslash, stripEnd?_append, Option.getD_some] at h
    have hlength := (trimEnd_isPrefix front).length_le
    rw [h, List.length_append] at hlength
    simp only [List.length_cons, List.length_nil] at hlength
    omega

theorem undecorate_eq_self_iff {cs : List Char} : undecorate cs = cs ↔ IsBare cs :=
  ⟨isBare_of_undecorate_eq, undecorate_of_isBare⟩

/-! ### Names as messages show them -/

theorem dropWhile_append_cons {p : Char → Bool} {c : Char} (h : p c = false) (xs ys : List Char) :
    (xs ++ c :: ys).dropWhile p = xs.dropWhile p ++ c :: ys := by
  induction xs with
  | nil => exact List.dropWhile_cons_of_neg (by simp [h])
  | cons x xs ih =>
    rw [List.cons_append, List.dropWhile_cons, List.dropWhile_cons, ih]
    split <;> rfl

/-- The brackets behind a name are taken off, and what stands in front of it. -/
theorem undecorate_called (cs : List Char) :
    undecorate (cs ++ ['(', ')']) = trimEnd ((trimStart cs).dropWhile (· == '\\')) := by
  have hstart : trimStart (cs ++ ['(', ')']) = trimStart cs ++ ['(', ')'] :=
    dropWhile_append_cons rfl cs [')']
  have hend : trimEnd (trimStart cs ++ ['(', ')']) = trimStart cs ++ ['(', ')'] := by
    rw [List.append_cons, trimEnd_concat rfl]
  have hslash : (trimStart cs ++ ['(', ')']).dropWhile (· == '\\') =
      (trimStart cs).dropWhile (· == '\\') ++ ['(', ')'] :=
    dropWhile_append_cons rfl _ [')']
  rw [undecorate, trim, hstart, hend, hslash, stripEnd?_append, Option.getD_some]

/-- An undecorated name is read back from what messages show exactly if it starts with no blank. -/
theorem undecorate_called_eq_iff (cs : List Char) :
    undecorate (undecorate cs ++ ['(', ')']) = undecorate cs ↔
      (undecorate cs).head?.any isBlank = false := by
  rw [undecorate_called]
  constructor
  · intro h
    have hend := (trimEnd_isPrefix ((trimStart (undecorate cs)).dropWhile (· == '\\'))).length_le
    rw [h] at hend
    have hslashes : ((trimStart (undecorate cs)).dropWhile (· == '\\')).length ≤
        (trimStart (undecorate cs)).length := (List.dropWhile_suffix _).length_le
    exact dropWhile_eq_self_iff.1
      ((List.dropWhile_suffix isBlank).eq_of_length_le (hend.trans hslashes))
  · intro h
    have hslash : (undecorate cs).head?.any (· == '\\') = false := by
      have hne := head?_undecorate_ne cs
      cases hhead : (undecorate cs).head? with
      | none => rfl
      | some c => simpa [hhead] using hne
    rw [trimStart, dropWhile_eq_self_iff.2 h, dropWhile_eq_self_iff.2 hslash, trimEnd_undecorate]

/-! ### Lower case -/

theorem undecorate_lower (cs : List Char) : undecorate (lower cs) = lower (undecorate cs) := by
  have hblank : ∀ c, isBlank c = true → isInert c = true := fun c hc => by simp [isInert, hc]
  have hslash : ∀ c, (c == '\\') = true → isInert c = true := by
    intro c hc
    rw [beq_iff_eq.1 hc]
    rfl
  have hbrackets : ∀ c ∈ ['(', ')'], isInert c = true := by
    simp only [List.forall_mem_cons]
    exact ⟨rfl, rfl, List.forall_mem_nil _⟩
  -- All that is cut off is inert, so it may be cut off later.
  unfold undecorate trim trimStart trimEnd
  rw [dropWhile_lower hblank, dropTrailing_lower hblank, dropWhile_lower hslash]
  dsimp only
  rw [stripEnd?_lower hbrackets]
  generalize (dropTrailing isBlank (cs.dropWhile isBlank)).dropWhile (· == '\\') = bare
  cases stripEnd? ['(', ')'] bare with
  | none => exact dropTrailing_lower hblank bare
  | some front => exact dropTrailing_lower hblank front

end CallPolicy
