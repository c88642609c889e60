import CallPolicy.Path.Root
import CallPolicy.Proofs.Path.Ancestors

namespace CallPolicy

open Text

/-!
# Joined paths

A path may be taken from a directory that is itself taken from another one. What it comes down to
does not depend on which of the two is done first, and a path that came down to something stays
there.

* `Path.spelled_joinText_assoc` — paths are joined from the left or from the right.
* `Path.spelled_text` — a plain path spells itself.
* `Path.isPlain_resolve` — what is taken from a plain directory is plain.
* `ProjectRoot.locate_eq` — a root is the path that it spells, taken from the working directory.
* `ProjectRoot.locate_toString` — locating a root that was located changes nothing.
-/

namespace Path

/-! ### Joined texts -/

theorem unifySeparators_append (xs ys : List Char) :
    unifySeparators (xs ++ ys) = unifySeparators xs ++ unifySeparators ys :=
  List.map_append

theorem joinText_of_isAbsolute (dir : List Char) {name : List Char} (h : isAbsolute name = true) :
    joinText dir name = name := by
  unfold joinText
  rw [h, Bool.true_or, if_pos rfl]

theorem isAbsolute_joinText_of_relative {dir name : List Char} (hdir : isAbsolute dir = false)
    (hname : isAbsolute name = false) : isAbsolute (joinText dir name) = false := by
  cases dir with
  | nil =>
    unfold joinText
    rwa [List.isEmpty_nil, Bool.or_true, if_pos rfl]
  | cons c dir =>
    unfold joinText
    rw [hname, List.isEmpty_cons, Bool.or_false, if_neg Bool.false_ne_true]
    split
    · exact hdir
    · exact hdir

/-- A relative name adds its segments to those of the directory. -/
theorem segmentsOf_joinText {name : List Char} (h : isAbsolute name = false) (dir : List Char) :
    segmentsOf (unifySeparators (joinText dir name)) =
      segmentsOf (unifySeparators dir) ++ segmentsOf (unifySeparators name) := by
  have hslash : ∀ front : List Char, segmentsOf (unifySeparators (front ++ '/' :: name)) =
      segmentsOf (unifySeparators front) ++ segmentsOf (unifySeparators name) := by
    intro front
    rw [unifySeparators_append]
    exact segmentsOf_append_slash _ _
  unfold joinText
  rw [h, Bool.false_or]
  split
  case isTrue hnil =>
    rw [List.isEmpty_iff.1 hnil]
    rfl
  case isFalse =>
    split
    case isTrue hlast =>
      -- The directory brings its own separator, which says nothing else.
      obtain ⟨front, rfl⟩ := List.getLast?_eq_some_iff.1 hlast
      have hfront : segmentsOf (unifySeparators (front ++ ['/'])) =
          segmentsOf (unifySeparators front) := by
        rw [unifySeparators_append]
        exact (segmentsOf_append_slash _ _).trans (List.append_nil _)
      rw [List.append_assoc, List.singleton_append, hslash, hfront]
    case isFalse => exact hslash dir

/-- Absolute texts of the same segments spell the same path. -/
theorem spelled_congr {xs ys : List Char} (hxs : isAbsolute xs = true) (hys : isAbsolute ys = true)
    (h : segmentsOf (unifySeparators xs) = segmentsOf (unifySeparators ys)) :
    spelled xs = spelled ys := by
  unfold spelled ofText
  rw [h, isAbsolute_unifySeparators hxs, isAbsolute_unifySeparators hys]

/-- A name in a directory that is taken from an absolute one may be joined in either order. -/
theorem spelled_joinText_assoc {base : List Char} (h : isAbsolute base = true)
    (dir name : List Char) :
    spelled (joinText base (joinText dir name)) = spelled (joinText (joinText base dir) name) := by
  cases hname : isAbsolute name with
  | true => rw [joinText_of_isAbsolute dir hname, joinText_of_isAbsolute _ hname,
      joinText_of_isAbsolute _ hname]
  | false =>
    cases hdir : isAbsolute dir with
    | true =>
      rw [joinText_of_isAbsolute base (isAbsolute_joinText hdir name),
        joinText_of_isAbsolute base hdir]
    | false =>
      have hinner : isAbsolute (joinText dir name) = false :=
        isAbsolute_joinText_of_relative hdir hname
      apply spelled_congr
      · exact isAbsolute_joinText h _
      · exact isAbsolute_joinText (isAbsolute_joinText h dir) name
      · rw [segmentsOf_joinText hinner, segmentsOf_joinText hname, segmentsOf_joinText hname,
          segmentsOf_joinText hdir, List.append_assoc]

/-! ### Plain paths -/

theorem clean_of_isPlain {p : Path} (h : p.IsPlain) : p.clean = p := by
  unfold clean
  rw [foldl_push_of_not_mem h.parent_not_mem, List.append_nil, List.reverse_reverse]

/-- An absolute text spells a plain path. -/
theorem isPlain_spelled {cs : List Char} (h : isAbsolute cs = true) : (spelled cs).IsPlain :=
  isPlain_clean_ofText (isAbsolute_unifySeparators h) (backslash_not_mem_unifySeparators cs)

/-- A plain path spells itself. -/
theorem spelled_text {p : Path} (h : p.IsPlain) : spelled p.text = p := by
  unfold spelled
  rw [unifySeparators_of_not_mem h.backslash_not_mem_text, ofText_text h, clean_of_isPlain h]

theorem isAbsolute_text {p : Path} (h : p.IsPlain) : isAbsolute p.text = true := by
  rw [text_of_rooted h.rooted]
  rfl

/-- Plain paths with one text are one path. -/
theorem eq_of_text_eq {p q : Path} (hp : p.IsPlain) (hq : q.IsPlain) (h : p.text = q.text) :
    p = q := by
  rw [← ofText_text hp, h, ofText_text hq]

theorem rooted_join {dir : Path} (h : dir.rooted = true) (p : Path) :
    (dir.join p).rooted = true := by
  unfold join
  split
  · assumption
  · exact h

/-- Whatever is taken from an absolute directory is plain, if the segments of the directory are
names or `..`. -/
theorem isPlain_resolve_of_rooted {dir : Path} (hrooted : dir.rooted = true)
    (hnames : ∀ s ∈ dir.segments, s ≠ parentSegment → s.IsName) (cs : List Char) :
    (dir.resolve cs).IsPlain := by
  refine isPlain_clean (rooted_join hrooted _) fun s hs hparent => ?_
  have hspelled : s ∈ segmentsOf (unifySeparators cs) → s.IsName := fun hmem =>
    isName_of_mem_segmentsOf (backslash_not_mem_unifySeparators cs) hmem hparent
  unfold join at hs
  split at hs
  · exact hspelled hs
  · rcases List.mem_append.1 hs with hdir | hmem
    · exact hnames s hdir hparent
    · exact hspelled hmem

/-- Whatever is taken from a plain directory is plain. -/
theorem isPlain_resolve {dir : Path} (h : dir.IsPlain) (cs : List Char) :
    (dir.resolve cs).IsPlain :=
  isPlain_resolve_of_rooted h.rooted (fun s hs _ => h.isName s hs) cs

end Path

/-! ### Roots -/

namespace ProjectRoot

open CallPolicy.Path

/-- A root that is spelled by a plain path is this path. -/
theorem locate_of_isPlain {p : Path} (h : p.IsPlain) (workDir : String) :
    locate workDir p.toString = ⟨p⟩ := by
  have htext : p.toString.toList = p.text := String.toList_ofList
  unfold locate
  dsimp only
  rw [htext, if_pos (isAbsolute_text h)]
  exact congrArg ProjectRoot.mk (spelled_text h)

variable {workDir : String} (h : isAbsolute workDir.toList = true)

include h

/-- A root is the path that it spells, taken from the working directory. -/
theorem locate_eq (root : String) :
    locate workDir root = ⟨spelled (joinText workDir.toList root.toList)⟩ := by
  unfold locate
  congr 1
  dsimp only
  split
  case isTrue hroot =>
    rw [joinText_of_isAbsolute _ hroot]
    rfl
  case isFalse hroot =>
    rw [Bool.not_eq_true] at hroot
    refine spelled_congr ?_ (isAbsolute_joinText h _) ?_
    · -- A separator behind an absolute path leaves it absolute.
      obtain ⟨rest, hrest⟩ := List.head?_eq_some_iff.1 (beq_iff_eq.1 h)
      rw [hrest]
      rfl
    · rw [segmentsOf_joinText hroot, unifySeparators_append]
      exact segmentsOf_append_slash _ _

/-- A root that is taken from an absolute working directory is plain. -/
theorem isPlain_locate_from (root : String) : (locate workDir root).path.IsPlain := by
  rw [locate_eq h]
  exact isPlain_spelled (isAbsolute_joinText h _)

/-- Locating a root that was located changes nothing. -/
theorem locate_toString (root : String) :
    locate workDir (locate workDir root).toString = locate workDir root := by
  have hplain : (locate workDir root).path.IsPlain := isPlain_locate_from h root
  exact locate_of_isPlain hplain workDir

end ProjectRoot

end CallPolicy
