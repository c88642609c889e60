import CallPolicy.Text.Blank
import CallPolicy.Text.Split

namespace CallPolicy.Text

/-!
# Texts written by lines

* `WrittenByLines` — lines written one after the other, with blank lines anywhere between them.
* `lines_append` — a line ends at its line end, and takes nothing from what follows.
* `WrittenByLines.filter_lines` — the lines that were written are those that are not blank.
* `WrittenByLines.trimStart` — white space in front does not matter.
-/

/-- What may end a line. -/
def lineEnds : List (List Char) := [['\n'], ['\r', '\n']]

/-- The lines are written one after the other, each with a line end, and blank lines may stand
anywhere. The last line of all may lack its line end. -/
inductive WrittenByLines : List (List Char) → List Char → Prop
  | lastBlank {blank : List Char} (hblank : isAllBlank blank = true) (hline : '\n' ∉ blank) :
    WrittenByLines [] blank
  | last (line : List Char) : WrittenByLines [line] line
  | blank {blank ending : List Char} {written : List (List Char)} {text : List Char}
    (hblank : isAllBlank blank = true) (hline : '\n' ∉ blank) (hending : ending ∈ lineEnds)
    (h : WrittenByLines written text) : WrittenByLines written (blank ++ ending ++ text)
  | line (line : List Char) {ending : List Char} {written : List (List Char)} {text : List Char}
    (hending : ending ∈ lineEnds) (h : WrittenByLines written text) :
    WrittenByLines (line :: written) (line ++ ending ++ text)

/-- A line that comes back as it was written: it starts with something, and no part of it is taken
for a line end. -/
structure IsLine (cs : List Char) : Prop where
  starts : ∃ c rest, cs = c :: rest ∧ isBlank c = false
  oneLine : '\n' ∉ cs
  last : cs.getLast? ≠ some '\r'

/-! ### Line ends -/

theorem lines_cons {c : Char} {rest : List Char} (hc : c ≠ '\n')
    (hrest : c = '\r' → rest.head? ≠ some '\n') {line : List Char} {more : List (List Char)}
    (h : lines rest = line :: more) : lines (c :: rest) = (c :: line) :: more := by
  rw [lines, h]
  · exact hc
  · rintro tail rfl rfl
    exact hrest rfl rfl

theorem lines_of_not_mem {cs : List Char} (h : '\n' ∉ cs) (hne : cs ≠ []) : lines cs = [cs] := by
  induction cs with
  | nil => exact absurd rfl hne
  | cons c rest ih =>
    rw [List.mem_cons, not_or] at h
    cases rest with
    | nil =>
      rw [lines]
      · rfl
      · exact Ne.symm h.1
      · exact nofun
    | cons d rest =>
      refine lines_cons (Ne.symm h.1) (fun _ hhead => ?_) (ih h.2 (List.cons_ne_nil _ _))
      obtain rfl := Option.some.inj hhead
      exact h.2 List.mem_cons_self

/-- A line ends at its line end. A carriage return in front of it may be taken for a part of it. -/
theorem lines_append {front ending : List Char} (hfront : '\n' ∉ front)
    (hending : ending ∈ lineEnds) (rest : List Char) :
    ∃ line, lines (front ++ ending ++ rest) = line :: lines rest ∧ line <+: front ∧
      (front.getLast? ≠ some '\r' → line = front) := by
  induction front with
  | nil =>
    refine ⟨[], ?_, List.prefix_rfl, fun _ => rfl⟩
    simp only [lineEnds, List.mem_cons, List.not_mem_nil, or_false] at hending
    rcases hending with rfl | rfl <;> rfl
  | cons c front ih =>
    rw [List.mem_cons, not_or] at hfront
    obtain ⟨line, hline, hprefix, hsame⟩ := ih hfront.2
    by_cases hreturn : c = '\r' ∧ (front ++ ending ++ rest).head? = some '\n'
    · -- The carriage return is taken for a part of the line end that it stands in front of.
      obtain ⟨rfl, hhead⟩ := hreturn
      have hnil : front = [] := by
        cases front with
        | nil => rfl
        | cons d front =>
          obtain rfl := Option.some.inj hhead
          exact absurd List.mem_cons_self hfront.2
      subst hnil
      obtain ⟨tail, htail⟩ := List.head?_eq_some_iff.1 hhead
      have hrest : tail = rest := by
        simp only [lineEnds, List.mem_cons, List.not_mem_nil, or_false] at hending
        rcases hending with rfl | rfl
        · exact (List.cons.inj htail).2.symm
        · cases (List.cons.inj htail).1
      refine ⟨[], ?_, List.nil_prefix, fun hlast => absurd rfl hlast⟩
      show lines ('\r' :: ([] ++ ending ++ rest)) = [] :: lines rest
      rw [htail, hrest]
      rfl
    · refine ⟨c :: line, ?_, ?_, fun hlast => ?_⟩
      · refine lines_cons (Ne.symm hfront.1) (fun hc hhead => hreturn ⟨hc, hhead⟩) hline
      · exact (List.cons_prefix_cons).2 ⟨rfl, hprefix⟩
      · congr 1
        apply hsame
        cases front with
        | nil => exact nofun
        | cons d front => rwa [List.getLast?_cons_cons] at hlast

/-! ### Blank lines -/

theorem isAllBlank_of_prefix {cs blank : List Char} (h : cs <+: blank)
    (hblank : isAllBlank blank = true) : isAllBlank cs = true := by
  unfold isAllBlank at hblank ⊢
  rw [List.all_eq_true] at hblank ⊢
  exact fun c hc => hblank c (h.subset hc)

theorem IsLine.isAllBlank_eq {cs : List Char} (h : IsLine cs) : isAllBlank cs = false := by
  obtain ⟨c, rest, rfl, hc⟩ := h.starts
  unfold isAllBlank
  rw [List.all_cons, hc, Bool.false_and]

namespace WrittenByLines

/-- The lines that were written are those that are not blank. -/
theorem filter_lines {written : List (List Char)} {text : List Char}
    (h : WrittenByLines written text) (hwritten : ∀ cs ∈ written, IsLine cs) :
    (lines text).filter (!isAllBlank ·) = written := by
  induction h with
  | @lastBlank blank hblank hline =>
    cases blank with
    | nil => rfl
    | cons c rest =>
      rw [lines_of_not_mem hline (List.cons_ne_nil _ _),
        List.filter_cons_of_neg (by rw [hblank]; exact Bool.false_ne_true), List.filter_nil]
  | last line =>
    have hline := hwritten line List.mem_cons_self
    obtain ⟨c, rest, hcons, -⟩ := hline.starts
    have hne : line ≠ [] := by
      rw [hcons]
      exact List.cons_ne_nil _ _
    rw [lines_of_not_mem hline.oneLine hne,
      List.filter_cons_of_pos (by rw [hline.isAllBlank_eq]; rfl), List.filter_nil]
  | @blank blank ending written text hblank hline hending _ ih =>
    obtain ⟨line, hlines, hprefix, -⟩ := lines_append hline hending text
    have hempty : isAllBlank line = true := isAllBlank_of_prefix hprefix hblank
    rw [hlines, List.filter_cons_of_neg (by rw [hempty]; exact Bool.false_ne_true), ih hwritten]
  | @line line ending written text hending _ ih =>
    rw [List.forall_mem_cons] at hwritten
    obtain ⟨same, hlines, -, hsame⟩ := lines_append hwritten.1.oneLine hending text
    obtain rfl := hsame hwritten.1.last
    rw [hlines, List.filter_cons_of_pos (by rw [hwritten.1.isAllBlank_eq]; rfl), ih hwritten.2]

theorem trimStart_eq_self {cs : List Char} (h : IsLine cs) (rest : List Char) :
    Text.trimStart (cs ++ rest) = cs ++ rest := by
  obtain ⟨c, tail, rfl, hc⟩ := h.starts
  unfold Text.trimStart
  rw [List.cons_append, List.dropWhile_cons_of_neg (by rw [hc]; exact Bool.false_ne_true)]

/-- Without the white space in front the same lines are written, and the first of them comes
first. -/
theorem trimStart {first : List Char} {written : List (List Char)} {text : List Char}
    (h : WrittenByLines (first :: written) text) (hwritten : IsLine first) :
    WrittenByLines (first :: written) (Text.trimStart text) ∧ first <+: Text.trimStart text := by
  generalize hlines : first :: written = all at h
  induction h with
  | lastBlank => cases hlines
  | last line =>
    cases hlines
    have hself := trimStart_eq_self hwritten []
    rw [List.append_nil] at hself
    rw [hself]
    exact ⟨.last first, List.prefix_rfl⟩
  | @blank blank ending written text hblank hline hending _ ih =>
    have hskip : Text.trimStart (blank ++ ending ++ text) = Text.trimStart text := by
      have hall : ∀ c ∈ blank ++ ending, isBlank c = true := by
        have hends : lineEnds.all isAllBlank = true := by decide
        have hend : isAllBlank ending = true := List.all_eq_true.1 hends ending hending
        rw [List.forall_mem_append]
        exact ⟨List.all_eq_true.1 hblank, List.all_eq_true.1 hend⟩
      exact List.dropWhile_append_of_pos hall
    rw [hskip]
    exact ih hlines
  | @line line ending written text hending hrest _ =>
    cases hlines
    rw [List.append_assoc, trimStart_eq_self hwritten, ← List.append_assoc]
    refine ⟨.line first hending hrest, ?_⟩
    rw [List.append_assoc]
    exact List.prefix_append _ _

end WrittenByLines

end CallPolicy.Text
