import CallPolicy.Path.Text
import CallPolicy.Proofs.Path.Clean

namespace CallPolicy.Path

open Text

/-!
# The directories above a path

* `above` — the segments of a path and of those above it, nearest first.
* `map_segmentsOf_ancestorTexts` — the texts above an absolute path have these segments, one after
  the other; `..` is a segment like any other there.
* `enter`, `walk` — where segments lead from a directory, and from the root.
* `walk_eq_clean` — the walk ends at the clean path.
* `exists_foldl_enter_eq` — a walk goes through all directories above its end that are not above
  its start.
* `find?_above_walk` — so of the directories that it goes through, taken backwards, the first with
  a property is the nearest one with it, if it is above the end at all.
-/

/-! ### Segments of a path and of those above it -/

/-- The segments of a path and of those above it, nearest first. -/
def above (segments : List Segment) : List (List Segment) :=
  segments.inits.reverse

theorem above_concat (segments : List Segment) (s : Segment) :
    above (segments ++ [s]) = (segments ++ [s]) :: above segments := by
  unfold above
  rw [List.inits_append]
  simp

theorem mem_above {part segments : List Segment} : part ∈ above segments ↔ part <+: segments := by
  unfold above
  rw [List.mem_reverse, List.mem_inits]

/-- The first of the directories above a path is the longest. -/
theorem find?_above_eq_some_iff {test : List Segment → Bool} {segments dir : List Segment} :
    (above segments).find? test = some dir ↔
      dir <+: segments ∧ test dir = true ∧
        ∀ part, part <+: segments → dir.length < part.length → test part = false := by
  induction segments using List.reverseRecOn with
  | nil =>
    show [[]].find? test = some dir ↔ _
    simp only [List.find?_singleton, List.prefix_nil]
    constructor
    · intro h
      split at h
      · rename_i htest
        cases h
        refine ⟨rfl, htest, fun part hpart hlt => ?_⟩
        rw [hpart] at hlt
        exact absurd hlt (Nat.lt_irrefl _)
      · cases h
    · rintro ⟨rfl, htest, -⟩
      rw [if_pos htest]
  | append_singleton segments s ih =>
    rw [above_concat]
    cases htest : test (segments ++ [s]) with
    | true =>
      rw [List.find?_cons_of_pos htest, Option.some.injEq]
      constructor
      · rintro rfl
        refine ⟨List.prefix_rfl, htest, fun part hpart hlt => ?_⟩
        exact absurd hpart.length_le (Nat.not_le_of_lt hlt)
      · rintro ⟨hdir, -, hlongest⟩
        -- A shorter one would not be the first.
        rcases List.prefix_concat_iff.1 hdir with rfl | hdir
        · rfl
        · have hlt : dir.length < (segments ++ [s]).length := by
            rw [List.length_append, List.length_singleton]
            exact Nat.lt_succ_of_le hdir.length_le
          have hfalse := hlongest _ List.prefix_rfl hlt
          rw [htest] at hfalse
          cases hfalse
    | false =>
      rw [List.find?_cons_of_neg (by rw [htest]; exact Bool.false_ne_true), ih]
      constructor
      · rintro ⟨hdir, hdirTest, hlongest⟩
        refine ⟨hdir.trans (List.prefix_append _ _), hdirTest, fun part hpart hlt => ?_⟩
        rcases List.prefix_concat_iff.1 hpart with rfl | hpart
        · exact htest
        · exact hlongest part hpart hlt
      · rintro ⟨hdir, hdirTest, hlongest⟩
        rcases List.prefix_concat_iff.1 hdir with rfl | hdir
        · rw [htest] at hdirTest
          cases hdirTest
        · exact ⟨hdir, hdirTest, fun part hpart =>
            hlongest part (hpart.trans (List.prefix_append _ _))⟩

theorem find?_above_eq_none_iff {test : List Segment → Bool} {segments : List Segment} :
    (above segments).find? test = none ↔ ∀ part, part <+: segments → test part = false := by
  simp only [List.find?_eq_none, mem_above, Bool.not_eq_true]

/-! ### Texts of the paths above a path -/

/-- A text without separators is one segment, unless it says nothing. -/
theorem segmentsOf_of_piece {piece : List Char} (hslash : '/' ∉ piece) (hnil : piece ≠ [])
    (hcurrent : piece ≠ ['.']) : segmentsOf piece = [piece] := by
  unfold segmentsOf
  rw [splitOn_eq, List.splitOn_eq_singleton hslash]
  simp [hnil, hcurrent]

theorem getLast?_trimReversed (cs : List Char) : (trimReversed cs).getLast? = cs.getLast? := by
  fun_induction trimReversed cs with
  | case1 rest hrest =>
    rw [List.isEmpty_iff] at hrest
    rw [hrest]
  | case2 rest hrest ih =>
    rw [ih]
    cases rest with
    | nil => exact absurd rfl hrest
    | cons c rest => rw [List.getLast?_cons_cons]
  | case3 rest ih => rw [ih, List.getLast?_cons_cons]
  | case4 cs => rfl

theorem trimReversed_isSuffix (cs : List Char) : trimReversed cs <:+ cs := by
  fun_induction trimReversed cs with
  | case1 rest hrest =>
    rw [List.isEmpty_iff] at hrest
    rw [hrest]
  | case2 rest hrest ih => exact ih.trans (List.suffix_cons _ _)
  | case3 rest ih => exact ih.trans (List.suffix_cons _ _)
  | case4 cs => exact List.suffix_rfl

/-- What is taken off the end of a path says nothing. -/
theorem segmentsOf_trimReversed (cs : List Char) :
    segmentsOf (trimReversed cs).reverse = segmentsOf cs.reverse := by
  have hend : ∀ front : List Char, segmentsOf (front ++ ['/']) = segmentsOf front := by
    intro front
    rw [segmentsOf_append_slash]
    exact List.append_nil _
  fun_induction trimReversed cs with
  | case1 rest hrest =>
    rw [List.isEmpty_iff] at hrest
    rw [hrest]
  | case2 rest hrest ih => rw [ih, List.reverse_cons, hend]
  | case3 rest ih =>
    rw [ih, List.reverse_cons, hend, List.reverse_cons, List.reverse_cons, List.append_assoc]
    show segmentsOf rest.reverse = segmentsOf (rest.reverse ++ '/' :: ['.'])
    rw [segmentsOf_append_slash]
    exact (List.append_nil _).symm
  | case4 cs => rfl

/-- A trimmed absolute path is the root, or ends in a segment. -/
theorem trimReversed_cases {cs : List Char} (h : cs.getLast? = some '/') :
    trimReversed cs = ['/'] ∨ ∃ piece rest, trimReversed cs = piece ++ '/' :: rest ∧
      '/' ∉ piece ∧ piece ≠ [] ∧ piece ≠ ['.'] := by
  fun_induction trimReversed cs with
  | case1 rest hrest => exact Or.inl rfl
  | case2 rest hrest ih =>
    refine ih ?_
    cases rest with
    | nil => exact absurd rfl hrest
    | cons c rest => rwa [List.getLast?_cons_cons] at h
  | case3 rest ih =>
    rw [List.getLast?_cons_cons] at h
    exact ih h
  | case4 cs hslash hcurrent =>
    obtain ⟨piece, rest, rfl, hpiece⟩ := List.eq_append_cons_of_mem (List.mem_of_getLast? h)
    refine Or.inr ⟨piece, rest, rfl, hpiece, ?_, ?_⟩
    · rintro rfl
      exact hslash rest rfl
    · rintro rfl
      exact hcurrent rest rfl

/-- The directory of an absolute path lacks its last segment. Only the root has no directory. -/
theorem parentText?_cases {cs : List Char} (h : isAbsolute cs = true) :
    (parentText? cs = none ∧ segmentsOf cs = []) ∨
      ∃ dir s, parentText? cs = some dir ∧ segmentsOf cs = segmentsOf dir ++ [s] ∧
        isAbsolute dir = true ∧ dir <+: cs ∧ dir.length < cs.length := by
  have hlast : cs.reverse.getLast? = some '/' := by
    rw [List.getLast?_reverse]
    exact beq_iff_eq.1 h
  have hsegments : segmentsOf (trimReversed cs.reverse).reverse = segmentsOf cs := by
    rw [segmentsOf_trimReversed, List.reverse_reverse]
  rcases trimReversed_cases hlast with hroot | ⟨piece, rest, htrim, hslash, hnil, hcurrent⟩
  · left
    rw [hroot] at hsegments
    refine ⟨?_, hsegments.symm⟩
    unfold parentText?
    rw [hroot]
    rfl
  · right
    have hwhole : piece ++ '/' :: rest <:+ cs.reverse := htrim ▸ trimReversed_isSuffix _
    have hrest : trimReversed ('/' :: rest) <:+ '/' :: rest := trimReversed_isSuffix _
    refine ⟨(trimReversed ('/' :: rest)).reverse, piece.reverse, ?_, ?_, ?_, ?_, ?_⟩
    · -- The last segment goes, with what separates it.
      unfold parentText?
      have hneither :
          ((piece ++ '/' :: rest).isEmpty || piece ++ '/' :: rest == ['/']) = false := by
        cases piece with
        | nil => exact absurd rfl hnil
        | cons c piece => simp
      have hdrop : (piece ++ '/' :: rest).dropWhile (· != '/') = '/' :: rest := by
        rw [List.dropWhile_append_of_pos fun c hc => by simpa using ne_of_mem_of_not_mem hc hslash]
        rfl
      simp only [htrim, hneither, hdrop, Bool.false_eq_true, if_false]
    · have hpiece : segmentsOf piece.reverse = [piece.reverse] :=
        segmentsOf_of_piece (by simpa using hslash) (by simpa using hnil)
          (by simpa [List.reverse_eq_iff] using hcurrent)
      have hparent : segmentsOf (trimReversed ('/' :: rest)).reverse = segmentsOf rest.reverse := by
        rw [segmentsOf_trimReversed, List.reverse_cons, segmentsOf_append_slash]
        exact List.append_nil _
      rw [← hsegments, htrim, hparent, List.reverse_append, List.reverse_cons, List.append_assoc,
        List.singleton_append, segmentsOf_append_slash, hpiece]
    · -- The parent still ends, reversed, in the slash of the root.
      rw [isAbsolute, List.head?_reverse, getLast?_trimReversed, beq_iff_eq,
        ← List.getLast?_append_cons piece, ← htrim, getLast?_trimReversed, hlast]
    · rw [← List.reverse_reverse cs]
      exact List.reverse_prefix.2 (hrest.trans ((List.suffix_append piece _).trans hwhole))
    · have hlength := hrest.length_le
      have hwholeLength := hwhole.length_le
      have hpiece : 0 < piece.length := List.length_pos_iff.2 hnil
      rw [List.length_append, List.length_reverse] at hwholeLength
      rw [List.length_reverse]
      omega

/-- The paths above an absolute path have, one after the other, the segments above its own. -/
theorem ancestorsFrom_spec {cs : List Char} (h : isAbsolute cs = true) {fuel : Nat}
    (hfuel : cs.length ≤ fuel) :
    (ancestorsFrom fuel cs).map segmentsOf = above (segmentsOf cs) ∧
      ∀ dir ∈ ancestorsFrom fuel cs, isAbsolute dir = true ∧ dir <+: cs := by
  induction fuel generalizing cs with
  | zero =>
    obtain rfl := List.length_eq_zero_iff.1 (Nat.le_zero.1 hfuel)
    cases h
  | succ fuel ih =>
    rw [ancestorsFrom]
    rcases parentText?_cases h with ⟨hparent, hnil⟩ | ⟨dir, s, hparent, hconcat, hdir, hprefix, hlt⟩
    · rw [hparent, List.map_singleton, hnil]
      refine ⟨rfl, fun dir hmem => ?_⟩
      obtain rfl := List.mem_singleton.1 hmem
      exact ⟨h, List.prefix_rfl⟩
    · obtain ⟨hmap, hall⟩ := ih hdir (by omega)
      rw [hparent, List.map_cons, hmap, hconcat, above_concat]
      refine ⟨rfl, fun part hmem => ?_⟩
      rcases List.mem_cons.1 hmem with rfl | hmem
      · exact ⟨h, List.prefix_rfl⟩
      · exact ⟨(hall part hmem).1, (hall part hmem).2.trans hprefix⟩

theorem map_segmentsOf_ancestorTexts {cs : List Char} (h : isAbsolute cs = true) :
    (ancestorTexts cs).map segmentsOf = above (segmentsOf cs) :=
  (ancestorsFrom_spec h le_rfl).1

theorem isAbsolute_of_mem_ancestorTexts {cs dir : List Char} (h : isAbsolute cs = true)
    (hdir : dir ∈ ancestorTexts cs) : isAbsolute dir = true ∧ dir <+: cs :=
  (ancestorsFrom_spec h le_rfl).2 dir hdir

/-! ### Texts of files in a directory -/

/-- A name comes last in the text that it has in a directory. -/
theorem splitOn_joinText (dir : List Char) {name : List Char} (hslash : '/' ∉ name) :
    ∃ front, splitOn '/' (joinText dir name) = front ++ [name] ∧
      front.filter (fun piece => !piece.isEmpty && piece != ['.']) = segmentsOf dir := by
  have hname : splitOn '/' name = [name] := by
    rw [splitOn_eq, List.splitOn_eq_singleton hslash]
  have hrelative : isAbsolute name = false := by
    cases name with
    | nil => rfl
    | cons c name =>
      rw [List.mem_cons, not_or] at hslash
      simpa [isAbsolute] using Ne.symm hslash.1
  unfold joinText
  rw [hrelative, Bool.false_or]
  split
  · rename_i hnil
    rw [List.isEmpty_iff] at hnil
    subst hnil
    exact ⟨[], hname, rfl⟩
  · split
    · rename_i hlast
      -- The separator is there, and what is in front of it is the directory.
      obtain ⟨front, rfl⟩ := List.getLast?_eq_some_iff.1 hlast
      refine ⟨splitOn '/' front, ?_, ?_⟩
      · rw [List.append_assoc, List.singleton_append, splitOn_eq, splitOn_eq,
          List.splitOn_append_cons_self, ← splitOn_eq '/' name, hname]
      · rw [segmentsOf_append_slash]
        exact (List.append_nil _).symm
    · refine ⟨splitOn '/' dir, ?_, rfl⟩
      rw [splitOn_eq, splitOn_eq, List.splitOn_append_cons_self, ← splitOn_eq '/' name, hname]

theorem isAbsolute_joinText {dir : List Char} (h : isAbsolute dir = true) (name : List Char) :
    isAbsolute (joinText dir name) = true := by
  cases dir with
  | nil => cases h
  | cons c dir =>
    unfold joinText
    split
    · rename_i hname
      rwa [List.isEmpty_cons, Bool.or_false] at hname
    · split
      · exact h
      · exact h

/-! ### Where segments lead -/

/-- Where a segment leads from a directory. Nothing is above the root. -/
def enter (dir : List Segment) (s : Segment) : List Segment :=
  if s = parentSegment then dir.dropLast else dir ++ [s]

/-- Where segments lead from the root. -/
def walk (segments : List Segment) : List Segment :=
  segments.foldl enter []

theorem foldl_push_eq {kept : List Segment} (h : parentSegment ∉ kept) (segments : List Segment) :
    (segments.foldl (push true) kept).reverse = segments.foldl enter kept.reverse := by
  induction segments generalizing kept with
  | nil => rfl
  | cons s rest ih =>
    rw [List.foldl_cons, List.foldl_cons, ih (parent_not_mem_push_rooted h s)]
    congr 1
    unfold enter
    split
    · rename_i hs
      subst hs
      cases kept with
      | nil => rfl
      | cons top below =>
        rw [List.mem_cons, not_or] at h
        rw [push_parent_cons (Ne.symm h.1), List.reverse_cons, List.dropLast_concat]
    · rename_i hs
      rw [push_of_ne hs, List.reverse_cons]

/-- A walk ends at the clean path. -/
theorem walk_eq_clean (segments : List Segment) :
    walk segments = (Path.mk true segments).clean.segments :=
  (foldl_push_eq List.not_mem_nil segments).symm

theorem walk_of_not_mem {segments : List Segment} (h : parentSegment ∉ segments) :
    walk segments = segments := by
  rw [walk_eq_clean]
  show (segments.foldl (push true) []).reverse = segments
  rw [foldl_push_of_not_mem h, List.append_nil, List.reverse_reverse]

/-- On the way from one directory to another, a directory above the end is gone through, unless it
is above the start. -/
theorem exists_foldl_enter_eq {start finish dir : List Segment} {segments : List Segment}
    (hfinish : segments.foldl enter start = finish) (hdir : dir <+: finish) :
    (∃ part, part <+: segments ∧ part.foldl enter start = dir) ∨
      dir <+: start ∧ dir.length < start.length := by
  induction segments generalizing start with
  | nil =>
    obtain rfl : start = finish := hfinish
    rcases hdir.length_le.lt_or_eq with hlt | heq
    · exact Or.inr ⟨hdir, hlt⟩
    · exact Or.inl ⟨[], List.prefix_rfl, (hdir.eq_of_length heq).symm⟩
  | cons s rest ih =>
    rcases ih hfinish with ⟨part, hpart, hwalk⟩ | ⟨habove, hlt⟩
    · exact Or.inl ⟨s :: part, (List.prefix_cons_inj s).2 hpart, hwalk⟩
    · -- One step away from the start, the directory is above the start or the start itself.
      by_cases hs : s = parentSegment
      · rw [show enter start s = start.dropLast from if_pos hs] at habove hlt
        refine Or.inr ⟨habove.trans (List.dropLast_prefix start), ?_⟩
        rw [List.length_dropLast] at hlt
        omega
      · rw [show enter start s = start ++ [s] from if_neg hs] at habove hlt
        rcases List.prefix_concat_iff.1 habove with rfl | hstart
        · exact absurd hlt (Nat.lt_irrefl _)
        · rcases hstart.length_le.lt_or_eq with hless | heq
          · exact Or.inr ⟨hstart, hless⟩
          · exact Or.inl ⟨[], List.nil_prefix, (hstart.eq_of_length heq).symm⟩

/-- The directories that a walk from the root goes through, the last first. -/
def visited (segments : List Segment) : List (List Segment) :=
  (above segments).map walk

theorem visited_of_not_mem {segments : List Segment} (h : parentSegment ∉ segments) :
    visited segments = above segments := by
  unfold visited
  -- No part of the segments holds a `..` either, so each walk ends where the part does.
  conv_rhs => rw [← List.map_id (above segments)]
  refine List.map_congr_left fun part hpart => walk_of_not_mem fun hmem => ?_
  exact h ((mem_above.1 hpart).subset hmem)

/-- The first directory with a property that is gone through is the nearest one with it above the
end of the walk, if it is above the end. -/
theorem find?_above_walk {test : List Segment → Bool} {segments dir : List Segment}
    (hfind : (visited segments).find? test = some dir) (hdir : dir <+: walk segments) :
    (above (walk segments)).find? test = some dir := by
  unfold visited at hfind
  rw [List.find?_map] at hfind
  obtain ⟨part, hpart, rfl⟩ := Option.map_eq_some_iff.1 hfind
  obtain ⟨⟨rest, rfl⟩, htest, hlater⟩ := find?_above_eq_some_iff.1 hpart
  refine find?_above_eq_some_iff.2 ⟨hdir, htest, fun nearer hnearer hlt => ?_⟩
  -- The walk goes on to the end, and a nearer directory is on the way.
  have hrest : rest.foldl enter (walk part) = walk (part ++ rest) := by
    unfold walk
    rw [List.foldl_append]
  rcases exists_foldl_enter_eq hrest hnearer with ⟨more, hmore, rfl⟩ | ⟨-, hless⟩
  · have hne : 0 < more.length := by
      refine List.length_pos_iff.2 ?_
      rintro rfl
      exact Nat.lt_irrefl _ hlt
    have hfalse := hlater (part ++ more) ((List.prefix_append_right_inj part).2 hmore)
      (by rw [List.length_append]; omega)
    rw [Function.comp_apply, walk, List.foldl_append] at hfalse
    exact hfalse
  · omega

theorem find?_above_walk_eq_none {test : List Segment → Bool} {segments : List Segment}
    (hfind : (visited segments).find? test = none) :
    (above (walk segments)).find? test = none := by
  refine find?_above_eq_none_iff.2 fun dir hdir => ?_
  have hwalk : segments.foldl enter [] = walk segments := rfl
  rcases exists_foldl_enter_eq hwalk hdir with ⟨part, hpart, rfl⟩ | ⟨-, hless⟩
  · exact Bool.not_eq_true _ ▸ List.find?_eq_none.1 hfind _
      (List.mem_map_of_mem (mem_above.2 hpart))
  · cases hless

end CallPolicy.Path
