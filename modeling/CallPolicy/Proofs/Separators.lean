import CallPolicy.Proofs.Path.Composition
import CallPolicy.Proofs.SharedRoot

namespace CallPolicy

open Text CallPolicy.Path

/-!
# Separators

A path may be spelled with `/` or `\`. Globs and files are told absolute or relative once all of
their separators are the same, so the spelling does not matter. The root is told absolute before:
one that starts with `\` is taken from a directory. That comes to the same place only if the root
climbs out of all of this directory again.

* `Respelled` — two texts that differ in their separators at most.
* `Path.climbs` — how far segments lead above the directory they start from.
* `Path.foldl_push_eq_iff` — a directory is forgotten exactly if it is left altogether.
* `TakenAlike` — when two spellings of a root lead to the same place.
* `respelled_paths_agree` — what the spelling of globs, files and roots changes.
-/

/-- The texts differ in their separators at most. -/
def Respelled (text text' : String) : Prop :=
  unifySeparators text.toList = unifySeparators text'.toList

instance (text text' : String) : Decidable (Respelled text text') :=
  inferInstanceAs (Decidable (_ = _))

theorem isAllBlank_unifySeparators (cs : List Char) :
    isAllBlank (unifySeparators cs) = isAllBlank cs := by
  unfold isAllBlank unifySeparators
  rw [List.all_map]
  congr 1
  funext c
  rw [Function.comp_apply]
  -- Neither separator is a blank.
  split
  case isTrue h =>
    rw [h]
    rfl
  case isFalse => rfl

namespace Path

/-! ### Climbing -/

/-- How many directories above their start the segments lead. -/
def climbs (segments : List Segment) : Nat :=
  (segments.foldl (push false) []).count parentSegment

/-- What the segments leave on the stack: some names, on what is left of the directories below after
`n` climbs. -/
structure Leaves (segments names : List Segment) (n : Nat) : Prop where
  parent_not_mem : parentSegment ∉ names
  relative : segments.foldl (push false) [] = names ++ List.replicate n parentSegment
  rooted : ∀ kept, parentSegment ∉ kept → segments.foldl (push true) kept = names ++ kept.drop n

namespace Leaves

theorem nil : Leaves [] [] 0 :=
  ⟨List.not_mem_nil, rfl, fun _ _ => rfl⟩

variable {segments names : List Segment} {n : Nat}

theorem name (h : Leaves segments names n) {s : Segment} (hs : s ≠ parentSegment) :
    Leaves (segments ++ [s]) (s :: names) n := by
  refine ⟨?_, ?_, fun kept hkept => ?_⟩
  · rw [List.mem_cons, not_or]
    exact ⟨Ne.symm hs, h.parent_not_mem⟩
  · rw [List.foldl_concat, h.relative, push_of_ne hs, List.cons_append]
  · rw [List.foldl_concat, h.rooted kept hkept, push_of_ne hs, List.cons_append]

/-- A step back takes the last name away. -/
theorem back {top : Segment} (h : Leaves segments (top :: names) n) :
    Leaves (segments ++ [parentSegment]) names n := by
  have hnames := h.parent_not_mem
  rw [List.mem_cons, not_or] at hnames
  refine ⟨hnames.2, ?_, fun kept hkept => ?_⟩
  · rw [List.foldl_concat, h.relative, List.cons_append, push_parent_cons (Ne.symm hnames.1)]
  · rw [List.foldl_concat, h.rooted kept hkept, List.cons_append,
      push_parent_cons (Ne.symm hnames.1)]

/-- Where no name is left, a step back leads one directory up. -/
theorem up (h : Leaves segments [] n) : Leaves (segments ++ [parentSegment]) [] (n + 1) := by
  refine ⟨List.not_mem_nil, ?_, fun kept hkept => ?_⟩
  · rw [List.foldl_concat, h.relative, List.nil_append, List.nil_append, List.replicate_succ]
    cases n <;> rfl
  · rw [List.foldl_concat, h.rooted kept hkept, List.nil_append, List.nil_append,
      ← List.tail_drop]
    cases hdrop : kept.drop n with
    | nil => rfl
    | cons top below =>
      have htop : top ≠ parentSegment := by
        rintro rfl
        exact hkept (List.mem_of_mem_drop (hdrop ▸ List.mem_cons_self))
      exact push_parent_cons htop true below

theorem climbs_eq (h : Leaves segments names n) : climbs segments = n := by
  rw [climbs, h.relative, List.count_append, List.count_eq_zero_of_not_mem h.parent_not_mem,
    List.count_replicate_self, Nat.zero_add]

end Leaves

theorem exists_leaves (segments : List Segment) :
    ∃ names, Leaves segments names (climbs segments) := by
  have hleaves : ∃ names n, Leaves segments names n := by
    induction segments using List.reverseRecOn with
    | nil => exact ⟨[], 0, .nil⟩
    | append_singleton segments s ih =>
      obtain ⟨names, n, h⟩ := ih
      by_cases hs : s = parentSegment
      · subst hs
        cases names with
        | nil => exact ⟨[], n + 1, h.up⟩
        | cons top names => exact ⟨names, n, h.back⟩
      · exact ⟨s :: names, n, h.name hs⟩
  obtain ⟨names, n, h⟩ := hleaves
  exact ⟨names, h.climbs_eq.symm ▸ h⟩

/-- The directories that segments start from are forgotten exactly if all of them are left. -/
theorem foldl_push_eq_iff {kept : List Segment} (h : parentSegment ∉ kept)
    (segments : List Segment) :
    segments.foldl (push true) kept = segments.foldl (push true) [] ↔
      kept.length ≤ climbs segments := by
  obtain ⟨names, hleaves⟩ := exists_leaves segments
  rw [hleaves.rooted kept h, hleaves.rooted [] List.not_mem_nil, List.drop_nil,
    List.append_cancel_left_eq, List.drop_eq_nil_iff]

/-! ### Roots -/

theorem spelled_of_unifySeparators_eq {xs ys : List Char}
    (h : unifySeparators xs = unifySeparators ys) : spelled xs = spelled ys := by
  unfold spelled
  rw [h]

section

variable {base : List Char} (hbase : isAbsolute base = true) {name name' : List Char}

include hbase

theorem spelled_joinText_of_relative (h : isAbsolute name = false) :
    spelled (joinText base name) = ⟨true, ((segmentsOf (unifySeparators name)).foldl (push true)
      (spelled base).segments.reverse).reverse⟩ := by
  have hrooted : isAbsolute (unifySeparators (joinText base name)) = true :=
    isAbsolute_unifySeparators (isAbsolute_joinText hbase name)
  have hbaseRooted := isAbsolute_unifySeparators hbase
  unfold spelled clean ofText
  dsimp only
  rw [hrooted, hbaseRooted, segmentsOf_joinText h, List.foldl_append, List.reverse_reverse]

/-- A name that starts with `\` is taken from the directory, unlike one that starts with `/`. -/
theorem spelled_joinText_eq_iff_climbs (h : unifySeparators name = unifySeparators name')
    (hname : isAbsolute name = true) (hname' : isAbsolute name' = false) :
    spelled (joinText base name) = spelled (joinText base name') ↔
      (spelled base).segments.length ≤ climbs (segmentsOf (unifySeparators name)) := by
  have hparent : parentSegment ∉ (spelled base).segments.reverse := by
    rw [List.mem_reverse]
    exact (isPlain_spelled hbase).parent_not_mem
  have hspelled : spelled name =
      ⟨true, ((segmentsOf (unifySeparators name)).foldl (push true) []).reverse⟩ := by
    have hrooted := isAbsolute_unifySeparators hname
    unfold spelled clean ofText
    dsimp only
    rw [hrooted]
  rw [joinText_of_isAbsolute base hname, spelled_joinText_of_relative hbase hname', hspelled, ← h,
    Path.mk.injEq, List.reverse_inj, eq_comm (a := List.foldl _ [] _), foldl_push_eq_iff hparent,
    List.length_reverse]
  simp only [true_and]

end

end Path

/-- The names lead to the same place from the directory `base`: both or neither start with `/`, or
they lead out of all of the directory. -/
def TakenAlike (base : List Char) (name name' : String) : Prop :=
  isAbsolute name.toList = isAbsolute name'.toList ∨
    (spelled base).segments.length ≤ climbs (segmentsOf (unifySeparators name.toList))

theorem spelled_joinText_eq_iff {base : List Char} (hbase : isAbsolute base = true)
    {name name' : String} (h : Respelled name name') :
    spelled (joinText base name.toList) = spelled (joinText base name'.toList) ↔
      TakenAlike base name name' := by
  unfold Respelled at h
  unfold TakenAlike
  cases hname : isAbsolute name.toList with
  | true =>
    cases hname' : isAbsolute name'.toList with
    | true =>
      rw [joinText_of_isAbsolute base hname, joinText_of_isAbsolute base hname']
      exact iff_of_true (spelled_of_unifySeparators_eq h) (Or.inl rfl)
    | false =>
      rw [spelled_joinText_eq_iff_climbs hbase h hname hname']
      simp only [Bool.true_eq_false, false_or]
  | false =>
    cases hname' : isAbsolute name'.toList with
    | true =>
      rw [eq_comm, spelled_joinText_eq_iff_climbs hbase h.symm hname' hname, h]
      simp only [Bool.false_eq_true, false_or]
    | false =>
      rw [spelled_joinText_of_relative hbase hname, spelled_joinText_of_relative hbase hname', h]
      exact iff_of_true rfl (Or.inl rfl)

/-! ### Globs and files -/

theorem Path.resolve_respelled {text text' : String} (h : Respelled text text') (dir : Path) :
    dir.resolve text.toList = dir.resolve text'.toList := by
  unfold resolve
  rw [h]

/-- Globs that differ in their separators only are compiled alike, or refused alike. -/
theorem PathGlob.compile_respelled (root : ProjectRoot) {glob glob' : String}
    (h : Respelled glob glob') :
    SameOutcome (fun e e' : GlobError => e = e'.naming glob)
      (fun g g' : PathGlob => g.anchored = g'.anchored ∧ g.tokens = g'.tokens)
      (compile root glob) (compile root glob') := by
  have hsame : isAllBlank glob.toList = isAllBlank glob'.toList := by
    rw [← isAllBlank_unifySeparators, h, isAllBlank_unifySeparators]
  cases hblank : isAllBlank glob'.toList with
  | true =>
    unfold compile
    rw [hsame, hblank, if_pos rfl, if_pos rfl]
    exact .error rfl
  | false => exact compile_of_anchor_eq (hsame.trans hblank) hblank (resolve_respelled h _)

/-- The directory that the root in the settings is taken from. -/
def Environment.settingsDir (env : Environment) : Option String → List Char
  | some configPath => env.dirOf configPath
  | none => env.workDir.toList

theorem locate_rootText_eq_iff {env : Environment} (h : isAbsolute env.workDir.toList = true)
    (source : Option String) {configured configured' : String} {asked asked' : Option String} :
    ProjectRoot.locate env.workDir (rootText source configured asked) =
        .locate env.workDir (rootText source configured' asked') ↔
      env.rootPath source configured asked = env.rootPath source configured' asked' := by
  rw [← locate_rootText h, ← locate_rootText h]
  exact ⟨congrArg ProjectRoot.path, congrArg ProjectRoot.mk⟩

/-- A text that starts with either separator is taken from nowhere. -/
theorem Path.resolve_of_unified_isAbsolute {text : String}
    (h : isAbsolute (unifySeparators text.toList) = true) (dir : Path) :
    dir.resolve text.toList = spelled text.toList := by
  unfold resolve join ofText
  rw [h, if_pos rfl]
  unfold spelled ofText
  rw [h]

/-- **Separators.** Globs and files that differ in their separators only are the same: at every root
the globs are anchored to one text or refused for one reason, the files come down to one path, and
so the globs match the same files. With either separator in front, both are absolute. Roots,
however, lead to the same place exactly if both or neither start with `/`, or if they lead out of
all of the directory that they are taken from: the working directory, or that of the configuration
file. -/
theorem respelled_paths_agree {env : Environment} (henv : isAbsolute env.workDir.toList = true)
    {root root' glob glob' file file' : String} (hroot : Respelled root root')
    (hglob : Respelled glob glob') (hfile : Respelled file file') :
    (∀ place : ProjectRoot,
      SameOutcome (fun e e' : GlobError => e = e'.naming glob)
        (fun g g' : PathGlob => g.anchored = g'.anchored ∧ g.tokens = g'.tokens)
        (PathGlob.compile place glob) (PathGlob.compile place glob') ∧
      place.resolve file = place.resolve file' ∧
      (∀ g g' : PathGlob,
        PathGlob.compile place glob = .ok g → PathGlob.compile place glob' = .ok g' →
        g.covers (place.resolve file).toString = g'.covers (place.resolve file').toString) ∧
      (isAbsolute (unifySeparators glob.toList) = true →
        PathGlob.anchor place glob.toList = spelled glob.toList) ∧
      (isAbsolute (unifySeparators file.toList) = true →
        place.resolve file = spelled file.toList)) ∧
    ∀ source : Option String,
      (∀ configured : String,
        ProjectRoot.locate env.workDir (rootText source configured (some root)) =
            .locate env.workDir (rootText source configured (some root')) ↔
          TakenAlike env.workDir.toList root root') ∧
      (ProjectRoot.locate env.workDir (rootText source root none) =
          .locate env.workDir (rootText source root' none) ↔
        TakenAlike (env.settingsDir source) root root') := by
  refine ⟨fun place => ?_, fun source => ⟨fun configured => ?_, ?_⟩⟩
  · have hcompile := PathGlob.compile_respelled place hglob
    have hresolve : place.resolve file = place.resolve file' := resolve_respelled hfile place.path
    refine ⟨hcompile, hresolve, fun g g' hg hg' => ?_, fun h => resolve_of_unified_isAbsolute h _,
      fun h => resolve_of_unified_isAbsolute h _⟩
    rw [hg, hg'] at hcompile
    cases hcompile with
    | ok hsame =>
      unfold PathGlob.covers
      rw [hresolve, hsame.2]
  · rw [locate_rootText_eq_iff henv]
    exact spelled_joinText_eq_iff henv hroot
  · rw [locate_rootText_eq_iff henv]
    cases source with
    | none => exact spelled_joinText_eq_iff henv hroot
    | some configPath => exact spelled_joinText_eq_iff (isAbsolute_joinText henv _) hroot

/-- One glob for the files of a directory in two spellings; two spellings of a root that climbs out
of the working directory, but not out of the directory of the configuration. -/
theorem respelled_paths_agree_app :
    Respelled "\\..\\app" "/../app" ∧ Respelled "/app\\src/*.php" "\\app/src\\*.php" ∧
      Respelled "src\\a.php" "src/a.php" ∧
      (∃ g g', PathGlob.compile (.locate "/w" "/app") "/app\\src/*.php" = .ok g ∧
        PathGlob.compile (.locate "/w" "/app") "\\app/src\\*.php" = .ok g' ∧
        g.covers ((ProjectRoot.locate "/w" "/app").resolve "src\\a.php").toString = true ∧
        g'.covers ((ProjectRoot.locate "/w" "/app").resolve "src/a.php").toString = true) ∧
      ProjectRoot.locate "/w" "\\..\\app" = .locate "/w" "/../app" ∧
      ProjectRoot.locate "/w" (rootText (some "conf/disallowed.toml") "\\..\\app" none) ≠
        .locate "/w" (rootText (some "conf/disallowed.toml") "/../app" none) := by
  have henv : isAbsolute (FileTree.runningIn "/w").workDir.toList = true := rfl
  have hroot : Respelled "\\..\\app" "/../app" := by decide
  have hglob : Respelled "/app\\src/*.php" "\\app/src\\*.php" := by decide
  have hfile : Respelled "src\\a.php" "src/a.php" := by decide
  obtain ⟨hplaces, hroots⟩ := respelled_paths_agree henv hroot hglob hfile
  refine ⟨hroot, hglob, hfile, ?_, ?_, ?_⟩
  · obtain ⟨hcompile, -, hfiles, -⟩ := hplaces (.locate "/w" "/app")
    have hcovers : ((PathGlob.compile (.locate "/w" "/app") "/app\\src/*.php").toOption.map
        (·.covers ((ProjectRoot.locate "/w" "/app").resolve "src\\a.php").toString)) =
          some true := by
      decide +kernel
    rcases hcompile.ok_or_error with ⟨g, g', hg, hg', -⟩ | ⟨e, -, he, -, -⟩
    · rw [hg] at hcovers
      have hcovered := Option.some.inj hcovers
      exact ⟨g, g', hg, hg', hcovered, hfiles g g' hg hg' ▸ hcovered⟩
    · rw [he] at hcovers
      cases hcovers
  · exact ((hroots none).1 "").2 (Or.inr (by decide +kernel))
  · have hnot : ¬ TakenAlike ((FileTree.runningIn "/w").settingsDir (some "conf/disallowed.toml"))
        "\\..\\app" "/../app" := by
      unfold TakenAlike
      decide +kernel
    exact fun h => hnot ((hroots (some "conf/disallowed.toml")).2.1 h)

/-- A root that starts with `\` is taken from the working directory, although the file and the glob
of the same text are absolute. -/
theorem not_respelled_roots_agree :
    Respelled "\\app" "/app" ∧
      ProjectRoot.locate "/w" "\\app" ≠ .locate "/w" "/app" ∧
      ProjectRoot.locate "/w" (rootText (some "conf/disallowed.toml") "\\app" none) ≠
        .locate "/w" (rootText (some "conf/disallowed.toml") "/app" none) ∧
      (ProjectRoot.locate "/w" "\\app").resolve "\\app" =
        (ProjectRoot.locate "/w" "\\app").resolve "/app" ∧
      PathGlob.anchor (.locate "/w" "\\app") "\\app".toList =
        PathGlob.anchor (.locate "/w" "\\app") "/app".toList := by
  decide +kernel

end CallPolicy
