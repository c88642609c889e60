import CallPolicy.Proofs.Glob.Anchor
import CallPolicy.Proofs.Path.Joined

namespace CallPolicy

open Text CallPolicy.Path

/-!
# Directories of directories

A path may be taken from a directory in one step, or from a directory that was itself resolved
first. The stack of kept segments is the same in both, since the segments of a clean path are pushed
again without loss.

* `Path.resolve_resolve` — a path is taken from a directory in one step or in two.
* `Path.resolve_text` — a plain path is resolved to itself everywhere.
* `PathGlob.anchor_resolve` — a glob behind the path of a directory is anchored as the glob is in
  that directory.
* `resolution_composes` — both, for absolute roots and for projects.
-/

namespace Path

/-! ### Resolving in two steps -/

theorem segments_clean_of_rooted {p : Path} (h : p.rooted = true) :
    p.clean.segments = (p.segments.foldl (push true) []).reverse := by
  unfold clean
  rw [h]

/-- The segments of a clean path are kept as they are when they are pushed again. -/
theorem foldl_push_clean {p : Path} (h : p.rooted = true) :
    p.clean.segments.foldl (push true) [] = p.segments.foldl (push true) [] := by
  have hparent : parentSegment ∉ (p.segments.foldl (push true) []).reverse := by
    rw [List.mem_reverse]
    exact parent_not_mem_foldl_push_rooted List.not_mem_nil _
  rw [segments_clean_of_rooted h, foldl_push_of_not_mem hparent, List.append_nil,
    List.reverse_reverse]

theorem join_of_relative {p : Path} (h : p.rooted = false) (dir : Path) :
    dir.join p = { dir with segments := dir.segments ++ p.segments } := by
  unfold join
  rw [h, if_neg Bool.false_ne_true]

/-- A directory may be cleaned before a relative path is followed from it. -/
theorem clean_join_clean {dir p : Path} (hdir : dir.rooted = true) (hp : p.rooted = false) :
    (dir.clean.join p).clean = (dir.join p).clean := by
  rw [join_of_relative hp, join_of_relative hp]
  have hrooted : dir.clean.rooted = true := hdir
  unfold clean
  dsimp only
  rw [hdir, List.foldl_append, List.foldl_append]
  -- The segments of `p` are pushed on the same stack in both.
  have hkept := foldl_push_clean hdir
  rw [segments_clean_of_rooted hdir] at hkept
  rw [hkept]

/-- A relative text behind another one adds its segments. -/
theorem join_ofText_append {u v : List Char} (hu : u ≠ []) (hv : isAbsolute v = false)
    (dir : Path) :
    dir.join (ofText (u ++ '/' :: v)) = (dir.join (ofText u)).join (ofText v) := by
  have habsolute : isAbsolute (u ++ '/' :: v) = isAbsolute u := by
    cases u with
    | nil => exact absurd rfl hu
    | cons c rest => rfl
  rw [join_of_relative (p := ofText v) hv]
  unfold join ofText
  dsimp only
  rw [habsolute, segmentsOf_append_slash]
  split
  · rfl
  · rw [List.append_assoc]

/-- A path is taken from a directory in one step or in two. -/
theorem resolve_resolve {dir : Path} (hdir : dir.rooted = true) {p q : List Char} (hp : p ≠ [])
    (hq : isAbsolute (unifySeparators q) = false) :
    (dir.resolve p).resolve q = dir.resolve (p ++ '/' :: q) := by
  have hunify : unifySeparators (p ++ '/' :: q) = unifySeparators p ++ '/' :: unifySeparators q :=
    unifySeparators_append p ('/' :: q)
  have hp' : unifySeparators p ≠ [] := by
    unfold unifySeparators
    rwa [ne_eq, List.map_eq_nil_iff]
  unfold resolve
  rw [hunify, join_ofText_append hp' hq]
  exact clean_join_clean (rooted_join hdir _) hq

/-! ### Resolving what was resolved -/

theorem resolve_of_isAbsolute {cs : List Char} (h : isAbsolute cs = true) (dir : Path) :
    dir.resolve cs = spelled cs := by
  have hrooted : (ofText (unifySeparators cs)).rooted = true := isAbsolute_unifySeparators h
  unfold resolve join
  rw [hrooted, if_pos rfl]
  rfl

/-- A plain path is resolved to itself everywhere. -/
theorem resolve_text {p : Path} (h : p.IsPlain) (dir : Path) : dir.resolve p.text = p := by
  rw [resolve_of_isAbsolute (isAbsolute_text h), spelled_text h]

theorem isPlain_resolve_ofText {root : List Char} (habsolute : isAbsolute root = true)
    (hroot : '\\' ∉ root) (cs : List Char) : ((ofText root).resolve cs).IsPlain :=
  isPlain_resolve_of_rooted habsolute (fun _ => isName_of_mem_segmentsOf hroot) cs

end Path

/-! ### Globs -/

/-- The path with its names escaped. -/
def Path.escaped (p : Path) : Path :=
  { p with segments := p.segments.map Glob.escape }

namespace PathGlob

theorem ofText_escape {p : Path} (h : p.IsPlain) : ofText (Glob.escape p.text) = p.escaped := by
  rw [ofText_escape_text h, Path.escaped, h.rooted]

/-- Escaping makes no `..` and loses none, so it may be done before or after folding. -/
theorem clean_escaped (p : Path) : p.escaped.clean = p.clean.escaped := by
  have hfold : List.Forall₂ (fun t s => t = Glob.escape s) p.escaped.clean.segments
      p.clean.segments := by
    refine forall₂_clean ?_ rfl ?_
    · rintro _ s rfl
      exact Glob.escape_eq_parent_iff s
    · exact List.forall₂_map_left_iff.2 (List.forall₂_same.2 fun _ _ => rfl)
  have hsegments : p.escaped.clean.segments = p.clean.segments.map Glob.escape := by
    rwa [← List.forall₂_map_right_iff, List.forall₂_eq_eq_eq] at hfold
  exact congrArg (Path.mk p.rooted) hsegments

section

variable {text : List Char} (h : ∀ c ∈ text, Glob.isSpecial c = false)

include h

theorem map_escape_segmentsOf :
    (segmentsOf (unifySeparators text)).map Glob.escape = segmentsOf (unifySeparators text) := by
  have hunify : ∀ c ∈ unifySeparators text, Glob.isSpecial c = false := by
    intro c hc
    obtain ⟨d, hd, rfl⟩ := List.mem_map.1 hc
    split
    · rfl
    · exact h d hd
  rw [← Glob.segmentsOf_escape, Glob.escape_of_not_special hunify]

theorem join_escaped (dir : Path) :
    dir.escaped.join (ofText (unifySeparators text)) =
      (dir.join (ofText (unifySeparators text))).escaped := by
  unfold join Path.escaped
  split
  · exact congrArg (Path.mk _) (map_escape_segmentsOf h).symm
  · refine congrArg (Path.mk _) ?_
    rw [List.map_append]
    exact congrArg _ (map_escape_segmentsOf h).symm

/-- A text without special characters may be followed before or after escaping. -/
theorem resolve_escaped (dir : Path) : dir.escaped.resolve text = (dir.resolve text).escaped := by
  unfold resolve
  rw [join_escaped h, clean_escaped]

/-- A glob behind the path of a directory is anchored as the glob is in this directory. -/
theorem anchor_resolve {root : ProjectRoot} (hroot : root.path.IsPlain) (hne : text ≠ [])
    {glob : List Char} (hglob : isAbsolute (unifySeparators glob) = false) :
    anchor root (text ++ '/' :: glob) = anchor ⟨root.path.resolve text⟩ glob := by
  have hrooted : root.path.escaped.rooted = true := hroot.rooted
  unfold anchor
  rw [ofText_escape hroot, ofText_escape (isPlain_resolve hroot text),
    ← resolve_resolve hrooted hne hglob, resolve_escaped h]

end

end PathGlob

/-- The same error about another glob. -/
def GlobError.naming (glob : String) : GlobError → GlobError
  | empty => empty
  | invalid _ cause => invalid glob cause

/-- Globs that are anchored to one text give the same, but for the text they were given. -/
theorem PathGlob.compile_of_anchor_eq {root root' : ProjectRoot} {glob glob' : String}
    (hblank : isAllBlank glob.toList = false) (hblank' : isAllBlank glob'.toList = false)
    (h : anchor root glob.toList = anchor root' glob'.toList) :
    SameOutcome (fun e e' : GlobError => e = e'.naming glob)
      (fun g g' : PathGlob => g.anchored = g'.anchored ∧ g.tokens = g'.tokens)
      (compile root glob) (compile root' glob') := by
  unfold compile
  rw [hblank, hblank', if_neg Bool.false_ne_true, if_neg Bool.false_ne_true, h]
  dsimp only
  cases Glob.parse (anchor root' glob'.toList).text with
  | ok tokens => exact .ok ⟨rfl, rfl⟩
  | error cause => exact .error rfl

/-- **Paths compose.** A path that is taken from an absolute root comes down to a plain path, which
resolves to itself everywhere; and a relative path taken from there is what the two make together,
taken from the root. A glob behind the path of a directory, which holds no special character, is
anchored to the same text as the glob is in that directory, or both are refused for the same
reason. -/
theorem resolution_composes :
    (∀ root p : List Char, isAbsolute root = true → '\\' ∉ root →
      ((ofText root).resolve p).IsPlain ∧
      (∀ dir : Path, dir.resolve ((ofText root).resolve p).text = (ofText root).resolve p) ∧
      ∀ q, p ≠ [] → isAbsolute (unifySeparators q) = false →
        ((ofText root).resolve p).resolve q = (ofText root).resolve (p ++ '/' :: q)) ∧
    ∀ workDir root dir glob : String, isAbsolute workDir.toList = true → dir ≠ "" →
      (∀ c ∈ dir.toList, Glob.isSpecial c = false) → isAllBlank glob.toList = false →
      isAbsolute (unifySeparators glob.toList) = false →
      SameOutcome (fun e e' : GlobError => e = e'.naming (dir ++ "/" ++ glob))
        (fun g g' : PathGlob => g.anchored = g'.anchored ∧ g.tokens = g'.tokens)
        (PathGlob.compile (.locate workDir root) (dir ++ "/" ++ glob))
        (PathGlob.compile
          (.locate workDir ((ProjectRoot.locate workDir root).resolve dir).toString) glob) := by
  constructor
  · intro root p habsolute hroot
    have hplain := isPlain_resolve_ofText habsolute hroot p
    exact ⟨hplain, resolve_text hplain, fun q hp hq => resolve_resolve habsolute hp hq⟩
  · intro workDir root dir glob hworkDir hdir hspecial hblank hrelative
    have hroot := ProjectRoot.isPlain_locate_from hworkDir root
    generalize ProjectRoot.locate workDir root = root at hroot ⊢
    have hne : dir.toList ≠ [] := by
      rwa [ne_eq, String.toList_eq_nil_iff]
    have htext : (dir ++ "/" ++ glob).toList = dir.toList ++ '/' :: glob.toList := by
      simp
    have hblank' : isAllBlank (dir ++ "/" ++ glob).toList = false := by
      rw [htext]
      simp [isAllBlank, isBlank]
    have hlocate : ProjectRoot.locate workDir (root.resolve dir).toString =
        ⟨root.path.resolve dir.toList⟩ :=
      ProjectRoot.locate_of_isPlain (isPlain_resolve hroot dir.toList) workDir
    refine PathGlob.compile_of_anchor_eq hblank' hblank ?_
    rw [htext, hlocate, PathGlob.anchor_resolve hspecial hroot hne hrelative]

/-- Climbing to the top and beyond comes to the same in one step and in two, and so does a glob
behind a path that leaves a root whose name is a glob itself. -/
theorem resolution_composes_climbing :
    (isAbsolute "/srv/../w".toList = true ∧ '\\' ∉ "/srv/../w".toList ∧
      (ofText "/srv/../w".toList).resolve "a\\..\\..\\..".toList = ⟨true, []⟩ ∧
      (ofText "/srv/../w".toList).resolve "a\\..\\..\\.././b".toList = ⟨true, ["b".toList]⟩ ∧
      ((ofText "/srv/../w".toList).resolve "a\\..\\..\\..".toList).resolve "./b".toList =
        (ofText "/srv/../w".toList).resolve "a\\..\\..\\.././b".toList) ∧
    isAbsolute "/w".toList = true ∧ "..\\lib/." ≠ "" ∧
      (∀ c ∈ "..\\lib/.".toList, Glob.isSpecial c = false) ∧
      isAllBlank "*.php".toList = false ∧ isAbsolute (unifySeparators "*.php".toList) = false ∧
      ∃ g g', PathGlob.compile (.locate "/w" "[x]*") "..\\lib/./*.php" = .ok g ∧
        PathGlob.compile
          (.locate "/w" ((ProjectRoot.locate "/w" "[x]*").resolve "..\\lib/.").toString) "*.php" =
            .ok g' ∧ g.anchored = "/w/lib/*.php" ∧ g.anchored = g'.anchored ∧
              g.tokens = g'.tokens := by
  obtain ⟨hpaths, hglobs⟩ := resolution_composes
  have hroot : '\\' ∉ "/srv/../w".toList := by decide
  have hspecial : ∀ c ∈ "..\\lib/.".toList, Glob.isSpecial c = false := by
    have hall : ("..\\lib/.".toList.all fun c => !Glob.isSpecial c) = true := by decide
    intro c hc
    simpa using List.all_eq_true.1 hall c hc
  have hresolve := (hpaths _ "a\\..\\..\\..".toList rfl hroot).2.2 "./b".toList (by decide) rfl
  refine ⟨⟨rfl, hroot, by decide, by decide, hresolve⟩, rfl, by decide, hspecial, rfl, rfl, ?_⟩
  -- The glob is accepted.
  have hanchored : (PathGlob.compile (.locate "/w" "[x]*") "..\\lib/./*.php").map (·.anchored) =
      .ok "/w/lib/*.php" := by decide +kernel
  obtain ⟨g, hg, htext⟩ := exists_of_map_eq_ok hanchored
  have hsame := hglobs "/w" "[x]*" "..\\lib/." "*.php" rfl (by decide) hspecial rfl rfl
  obtain ⟨g', hg', hagree⟩ := hsame.exists_of_eq_ok hg
  exact ⟨g, g', hg, hg', htext.symm, hagree⟩

end CallPolicy
