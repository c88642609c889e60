import CallPolicy.Path.Root
import CallPolicy.Proofs.Text.Split
import Mathlib.Data.List.Forall2

namespace CallPolicy

open Text

/-!
# Clean paths

* `Segment.IsName` — the segment names something in a directory.
* `Path.forall₂_clean` — `..` is folded alike in paths whose segments are related.
* `Path.IsPlain` — the path starts at the root and all of its segments are names; the project root
  is such a path (`ProjectRoot.isPlain_locate`).
* `Path.StaysInside` — the text is a relative path that does not climb above its directory.
* `Path.resolve_of_staysInside` — such a path is cleaned alike in every directory.
* `Path.text_resolve` — the text of a path in a directory starts with the text of the directory.
-/

/-- The segment names something in a directory. -/
structure Segment.IsName (s : Segment) : Prop where
  ne_nil : s ≠ []
  ne_current : s ≠ ['.']
  ne_parent : s ≠ parentSegment
  slash_not_mem : '/' ∉ s
  backslash_not_mem : '\\' ∉ s

/-! ### Reading -/

theorem backslash_not_mem_unifySeparators (cs : List Char) : '\\' ∉ unifySeparators cs := by
  intro h
  obtain ⟨c, -, hc⟩ := List.mem_map.1 h
  split at hc
  · cases hc
  · rename_i hne
    exact hne hc

theorem unifySeparators_of_not_mem {cs : List Char} (h : '\\' ∉ cs) : unifySeparators cs = cs := by
  unfold unifySeparators
  conv_rhs => rw [← List.map_id cs]
  refine List.map_congr_left fun c hc => if_neg ?_
  rintro rfl
  exact h hc

theorem isAbsolute_unifySeparators {cs : List Char} (h : isAbsolute cs = true) :
    isAbsolute (unifySeparators cs) = true := by
  cases cs with
  | nil => cases h
  | cons c rest =>
    have hc : c = '/' := by simpa [isAbsolute] using h
    subst hc
    rfl

namespace Path

/-- A segment that is read is a name or `..`. -/
theorem isName_of_mem_segmentsOf {cs : List Char} (h : '\\' ∉ cs) {s : Segment}
    (hs : s ∈ segmentsOf cs) (hparent : s ≠ parentSegment) : s.IsName := by
  obtain ⟨hpiece, hkept⟩ := List.mem_filter.1 hs
  simp only [Bool.and_eq_true, Bool.not_eq_true', List.isEmpty_eq_false_iff, bne_iff_ne] at hkept
  refine ⟨hkept.1, hkept.2, hparent, ?_, ?_⟩
  · exact fun hc => (mem_of_mem_splitOn hpiece hc).2 rfl
  · exact fun hc => h (mem_of_mem_splitOn hpiece hc).1

theorem segmentsOf_append_slash (xs ys : List Char) :
    segmentsOf (xs ++ '/' :: ys) = segmentsOf xs ++ segmentsOf ys := by
  unfold segmentsOf
  rw [splitOn_eq, splitOn_eq, splitOn_eq, List.splitOn_append_cons_self, List.filter_append]

theorem segmentsOf_of_isName {s : Segment} (h : s.IsName) : segmentsOf s = [s] := by
  unfold segmentsOf
  rw [splitOn_eq, List.splitOn_eq_singleton h.slash_not_mem]
  simp [h.ne_nil, h.ne_current]

/-- Names that are joined by `/` are read back. -/
theorem segmentsOf_intercalate {names : List Segment} (h : ∀ s ∈ names, s.IsName) :
    segmentsOf (['/'].intercalate names) = names := by
  induction names with
  | nil => rfl
  | cons s rest ih =>
    have hs := segmentsOf_of_isName (h s List.mem_cons_self)
    cases rest with
    | nil => rw [List.intercalate_singleton, hs]
    | cons t rest =>
      rw [List.intercalate_cons_cons, List.append_assoc, List.singleton_append,
        segmentsOf_append_slash, hs, ih fun u hu => h u (List.mem_cons_of_mem s hu)]
      rfl

/-! ### Cleaning -/

theorem push_of_ne {s : Segment} (h : s ≠ parentSegment) (rooted : Bool) (kept : List Segment) :
    push rooted kept s = s :: kept := by
  unfold push
  rw [if_neg h]

theorem push_parent_cons {top : Segment} (h : top ≠ parentSegment) (rooted : Bool)
    (below : List Segment) : push rooted (top :: below) parentSegment = below := by
  simp [push, h]

theorem mem_push {rooted : Bool} {kept : List Segment} {s t : Segment}
    (h : t ∈ push rooted kept s) : t = s ∨ t ∈ kept := by
  unfold push at h
  split at h
  · cases kept with
    -- With nothing left to take back, only a relative path keeps the `..`.
    | nil =>
      cases rooted with
      | true => cases h
      | false => exact Or.inl (List.mem_singleton.1 h)
    | cons top below =>
      dsimp only at h
      split at h
      · exact List.mem_cons.1 h
      · exact Or.inr (List.mem_cons_of_mem top h)
  · exact List.mem_cons.1 h

theorem mem_foldl_push {rooted : Bool} {kept segments : List Segment} {t : Segment}
    (h : t ∈ segments.foldl (push rooted) kept) : t ∈ kept ∨ t ∈ segments := by
  induction segments generalizing kept with
  | nil => exact Or.inl h
  | cons s rest ih =>
    rcases ih h with hkept | hrest
    · rcases mem_push hkept with rfl | hkept
      · exact Or.inr List.mem_cons_self
      · exact Or.inl hkept
    · exact Or.inr (List.mem_cons_of_mem s hrest)

/-- Nothing is above the root. -/
theorem parent_not_mem_push_rooted {kept : List Segment} (h : parentSegment ∉ kept) (s : Segment) :
    parentSegment ∉ push true kept s := by
  by_cases hs : s = parentSegment
  · subst hs
    cases kept with
    | nil => simp [push]
    | cons top below =>
      rw [List.mem_cons, not_or] at h
      rw [push_parent_cons (Ne.symm h.1)]
      exact h.2
  · rw [push_of_ne hs, List.mem_cons, not_or]
    exact ⟨Ne.symm hs, h⟩

theorem parent_not_mem_foldl_push_rooted {kept : List Segment} (h : parentSegment ∉ kept)
    (segments : List Segment) : parentSegment ∉ segments.foldl (push true) kept := by
  induction segments generalizing kept with
  | nil => exact h
  | cons s rest ih => exact ih (parent_not_mem_push_rooted h s)

theorem foldl_push_of_not_mem {segments : List Segment} (h : parentSegment ∉ segments)
    (rooted : Bool) (kept : List Segment) :
    segments.foldl (push rooted) kept = segments.reverse ++ kept := by
  induction segments generalizing kept with
  | nil => rfl
  | cons s rest ih =>
    rw [List.mem_cons, not_or] at h
    rw [List.foldl_cons, push_of_ne (Ne.symm h.1), ih h.2, List.reverse_cons, List.append_assoc,
      List.singleton_append]

/-- A relative path that has climbed above its directory stays above it. -/
theorem getLast?_push_of_parent {kept : List Segment} (h : kept.getLast? = some parentSegment)
    (s : Segment) : (push false kept s).getLast? = some parentSegment := by
  cases kept with
  | nil => cases h
  | cons top below =>
    by_cases hs : s = parentSegment
    · subst hs
      -- One more climb, or one step back that leaves the climbs at the bottom.
      by_cases htop : top = parentSegment
      · simp only [push, htop, if_true]
        rw [htop] at h
        simpa using h
      · rw [push_parent_cons htop]
        cases below with
        | nil => exact absurd (Option.some.inj h) htop
        | cons next below => simpa using h
    · rw [push_of_ne hs]
      simpa using h

theorem getLast?_foldl_push_of_parent {kept : List Segment}
    (h : kept.getLast? = some parentSegment) (segments : List Segment) :
    (segments.foldl (push false) kept).getLast? = some parentSegment := by
  induction segments generalizing kept with
  | nil => exact h
  | cons s rest ih => exact ih (getLast?_push_of_parent h s)

/-- What does not climb leaves the segments below it alone. -/
theorem foldl_push_append {kept segments : List Segment} (hkept : parentSegment ∉ kept)
    (h : (segments.foldl (push false) kept).getLast? ≠ some parentSegment) (dir : List Segment) :
    segments.foldl (push true) (kept ++ dir) = segments.foldl (push false) kept ++ dir ∧
      parentSegment ∉ segments.foldl (push false) kept := by
  induction segments generalizing kept with
  | nil => exact ⟨rfl, hkept⟩
  | cons s rest ih =>
    rw [List.foldl_cons] at h ⊢
    rw [List.foldl_cons]
    by_cases hs : s = parentSegment
    · subst hs
      cases kept with
      | nil =>
        -- A climb: the path would stay above its directory.
        exact absurd (getLast?_foldl_push_of_parent rfl rest) h
      | cons top below =>
        rw [List.mem_cons, not_or] at hkept
        rw [List.cons_append, push_parent_cons (Ne.symm hkept.1)]
        rw [push_parent_cons (Ne.symm hkept.1)] at h ⊢
        exact ih hkept.2 h
    · rw [push_of_ne hs, ← List.cons_append]
      rw [push_of_ne hs] at h ⊢
      refine ih ?_ h
      rw [List.mem_cons, not_or]
      exact ⟨Ne.symm hs, hkept⟩

section

variable {R : Segment → Segment → Prop}
  (hR : ∀ s s', R s s' → (s = parentSegment ↔ s' = parentSegment))

include hR

theorem forall₂_push {kept kept' : List Segment} (h : List.Forall₂ R kept kept') {s s' : Segment}
    (hs : R s s') (rooted : Bool) :
    List.Forall₂ R (push rooted kept s) (push rooted kept' s') := by
  unfold push
  by_cases hparent : s = parentSegment
  · rw [if_pos hparent, if_pos ((hR s s' hs).1 hparent)]
    cases h with
    | nil =>
      cases rooted with
      | true => exact .nil
      | false => exact .cons hs .nil
    | @cons top top' _ _ htop hbelow =>
      dsimp only
      by_cases htopParent : top = parentSegment
      · rw [if_pos htopParent, if_pos ((hR top top' htop).1 htopParent)]
        exact .cons hs (.cons htop hbelow)
      · rw [if_neg htopParent, if_neg fun h => htopParent ((hR top top' htop).2 h)]
        exact hbelow
  · rw [if_neg hparent, if_neg fun h => hparent ((hR s s' hs).2 h)]
    exact .cons hs h

theorem forall₂_foldl_push {segments segments' : List Segment}
    (h : List.Forall₂ R segments segments') (rooted : Bool) {kept kept' : List Segment}
    (hkept : List.Forall₂ R kept kept') :
    List.Forall₂ R (segments.foldl (push rooted) kept) (segments'.foldl (push rooted) kept') := by
  induction h generalizing kept kept' with
  | nil => exact hkept
  | cons hs _ ih => exact ih (forall₂_push hR hkept hs rooted)

/-- Folding `..` goes alike for segments that are related, if `..` is related to itself only. -/
theorem forall₂_clean {p q : Path} (hrooted : p.rooted = q.rooted)
    (h : List.Forall₂ R p.segments q.segments) :
    List.Forall₂ R p.clean.segments q.clean.segments := by
  unfold clean
  rw [hrooted]
  exact List.rel_reverse (forall₂_foldl_push hR h q.rooted .nil)

end

/-! ### Plain paths -/

/-- The path starts at the root, and all of its segments are names. -/
structure IsPlain (p : Path) : Prop where
  rooted : p.rooted = true
  isName : ∀ s ∈ p.segments, s.IsName

theorem IsPlain.parent_not_mem {p : Path} (h : p.IsPlain) : parentSegment ∉ p.segments :=
  fun hmem => (h.isName _ hmem).ne_parent rfl

/-- A rooted path is plain once it is clean, if its segments are names or `..`. -/
theorem isPlain_clean {p : Path} (hrooted : p.rooted = true)
    (hnames : ∀ s ∈ p.segments, s ≠ parentSegment → s.IsName) : p.clean.IsPlain := by
  refine ⟨hrooted, fun s hs => ?_⟩
  have hmem : s ∈ p.segments.foldl (push true) [] := by
    rw [← hrooted]
    exact List.mem_reverse.1 hs
  have hparent : s ≠ parentSegment := by
    rintro rfl
    exact parent_not_mem_foldl_push_rooted List.not_mem_nil _ hmem
  exact hnames s ((mem_foldl_push hmem).resolve_left List.not_mem_nil) hparent

theorem isPlain_clean_ofText {cs : List Char} (habsolute : isAbsolute cs = true)
    (hcs : '\\' ∉ cs) : (ofText cs).clean.IsPlain :=
  isPlain_clean habsolute fun _ => isName_of_mem_segmentsOf hcs

theorem text_of_rooted {p : Path} (h : p.rooted = true) :
    p.text = '/' :: ['/'].intercalate p.segments := by
  unfold text
  rw [if_pos h, List.singleton_append]

/-- A plain path is what its text says. -/
theorem ofText_text {p : Path} (h : p.IsPlain) : ofText p.text = p := by
  have hsegments : segmentsOf ('/' :: ['/'].intercalate p.segments) = p.segments := by
    rw [← List.nil_append ('/' :: _), segmentsOf_append_slash, segmentsOf_intercalate h.isName]
    rfl
  have hrooted : isAbsolute ('/' :: ['/'].intercalate p.segments) = p.rooted := h.rooted.symm
  rw [text_of_rooted h.rooted, ofText, hsegments, hrooted]

theorem backslash_not_mem_intercalate {names : List Segment} (h : ∀ s ∈ names, s.IsName) :
    '\\' ∉ ['/'].intercalate names := by
  induction names with
  | nil => exact List.not_mem_nil
  | cons s rest ih =>
    have hs := (h s List.mem_cons_self).backslash_not_mem
    have hrest := ih fun t ht => h t (List.mem_cons_of_mem s ht)
    cases rest with
    | nil => rwa [List.intercalate_singleton]
    | cons t rest =>
      rw [List.intercalate_cons_cons, List.mem_append, List.mem_append]
      rintro ((hmem | hmem) | hmem)
      · exact hs hmem
      · simp at hmem
      · exact hrest hmem

theorem IsPlain.backslash_not_mem_text {p : Path} (h : p.IsPlain) : '\\' ∉ p.text := by
  rw [text_of_rooted h.rooted, List.mem_cons, not_or]
  exact ⟨by decide, backslash_not_mem_intercalate h.isName⟩

/-! ### Paths inside a directory -/

/-- The clean path from a directory that a text spells. -/
def spelled (cs : List Char) : Path :=
  (ofText (unifySeparators cs)).clean

/-- The text is a relative path, and does not climb above the directory it is taken from. -/
structure StaysInside (cs : List Char) : Prop where
  relative : isAbsolute (unifySeparators cs) = false
  not_climbing : (spelled cs).segments.head? ≠ some parentSegment

/-- The text of the paths in a directory, up to their own part. -/
def lead (dir : Path) : List Char :=
  '/' :: dir.segments.flatMap (· ++ ['/'])

theorem intercalate_append {names more : List Segment} (h : more ≠ []) :
    ['/'].intercalate (names ++ more) = names.flatMap (· ++ ['/']) ++ ['/'].intercalate more := by
  induction names with
  | nil => rfl
  | cons s rest ih =>
    have hne : rest ++ more ≠ [] := by simp [h]
    rw [List.cons_append, List.intercalate_cons_of_ne_nil hne, ih, List.flatMap_cons]
    simp only [List.append_assoc]

theorem getLast?_lead (dir : Path) : dir.lead.getLast? = some '/' := by
  unfold lead
  cases hlast : dir.segments.reverse with
  | nil => rw [List.reverse_eq_nil_iff.1 hlast]; rfl
  | cons last front =>
    rw [List.reverse_eq_cons_iff.1 hlast, List.flatMap_append, List.flatMap_singleton,
      ← List.append_assoc, ← List.cons_append, List.getLast?_concat]

theorem intercalate_ne_nil {names : List Segment} (h : ∀ s ∈ names, s.IsName) (hne : names ≠ []) :
    ['/'].intercalate names ≠ [] := by
  intro hnil
  have hnames := segmentsOf_intercalate h
  rw [hnil] at hnames
  exact hne hnames.symm

/-- The text of a directory is the start of the text in front of its paths. -/
theorem exists_lead_eq {dir : Path} (h : dir.rooted = true) :
    ∃ more, dir.lead = dir.text ++ more := by
  -- The two differ in a final `/`, but not for the root of the file system.
  rw [text_of_rooted h, lead]
  generalize dir.segments = segments
  cases hlast : segments.reverse with
  | nil =>
    obtain rfl := List.reverse_eq_nil_iff.1 hlast
    exact ⟨[], rfl⟩
  | cons last front =>
    obtain rfl := List.reverse_eq_cons_iff.1 hlast
    refine ⟨['/'], ?_⟩
    rw [intercalate_append (by simp), List.intercalate_singleton, List.flatMap_append]
    simp

section

variable {cs : List Char} (h : StaysInside cs)

include h

theorem StaysInside.segments_eq :
    (spelled cs).segments = ((segmentsOf (unifySeparators cs)).foldl (push false) []).reverse := by
  unfold spelled clean ofText
  dsimp only
  rw [h.relative]

theorem StaysInside.getLast?_ne :
    ((segmentsOf (unifySeparators cs)).foldl (push false) []).getLast? ≠ some parentSegment := by
  have hhead := h.not_climbing
  rw [h.segments_eq, List.head?_reverse] at hhead
  exact hhead

theorem StaysInside.isName {s : Segment} (hs : s ∈ (spelled cs).segments) : s.IsName := by
  rw [h.segments_eq, List.mem_reverse] at hs
  have hparent := (foldl_push_append List.not_mem_nil h.getLast?_ne []).2
  refine isName_of_mem_segmentsOf (backslash_not_mem_unifySeparators cs)
    ((mem_foldl_push hs).resolve_left List.not_mem_nil) ?_
  rintro rfl
  exact hparent hs

/-- A path that stays inside is cleaned alike in every directory. -/
theorem resolve_of_staysInside {dir : Path} (hrooted : dir.rooted = true)
    (hdir : parentSegment ∉ dir.segments) :
    dir.resolve cs = { rooted := true, segments := dir.segments ++ (spelled cs).segments } := by
  have hpush := (foldl_push_append List.not_mem_nil h.getLast?_ne dir.segments.reverse).1
  have hjoin : (dir.join (ofText (unifySeparators cs))).segments =
      dir.segments ++ segmentsOf (unifySeparators cs) := by
    unfold join ofText
    dsimp only
    rw [h.relative]
    rfl
  have hjoinRooted : (dir.join (ofText (unifySeparators cs))).rooted = true := by
    unfold join ofText
    dsimp only
    rw [h.relative]
    exact hrooted
  -- The segments of the directory are pushed first, and then stay below the others.
  unfold resolve clean
  rw [hjoin, hjoinRooted, List.foldl_append, foldl_push_of_not_mem hdir, List.append_nil,
    ← List.nil_append dir.segments.reverse, hpush, List.reverse_append, List.reverse_reverse,
    h.segments_eq]

/-- The text of a path in a directory starts with that of the directory. -/
theorem text_resolve {dir : Path} (hrooted : dir.rooted = true)
    (hdir : parentSegment ∉ dir.segments) (hne : (spelled cs).segments ≠ []) :
    (dir.resolve cs).text = dir.lead ++ ['/'].intercalate (spelled cs).segments := by
  rw [resolve_of_staysInside h hrooted hdir, text_of_rooted rfl, intercalate_append hne]
  rfl

/-- A path that comes down to nothing is the directory itself. -/
theorem text_resolve_of_nil {dir : Path} (hrooted : dir.rooted = true)
    (hdir : parentSegment ∉ dir.segments) (hnil : (spelled cs).segments = []) :
    (dir.resolve cs).text = '/' :: ['/'].intercalate dir.segments := by
  rw [resolve_of_staysInside h hrooted hdir, hnil, List.append_nil, text_of_rooted rfl]

end

end Path

/-- The root of a project is plain, however it is spelled. -/
theorem ProjectRoot.isPlain_locate (workDir : String) {root : String}
    (h : isAbsolute root.toList = true) : (locate workDir root).path.IsPlain := by
  unfold locate
  dsimp only
  rw [if_pos h]
  exact Path.isPlain_clean_ofText (isAbsolute_unifySeparators h)
    (backslash_not_mem_unifySeparators _)

end CallPolicy
