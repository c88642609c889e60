import CallPolicy.Command.Program
import CallPolicy.Proofs.Following

namespace CallPolicy

/-!
# The nearest configuration

The configuration of a project is looked for in the project directory and in those above it. This
file says when the search finds the nearest one.

* `FileTree.configIn?`, `FileTree.nearestConfig?` — the configuration file of a directory, and the
  nearest one above a directory.
* `FileTree.IsNearest` — a source is the nearest configuration, or else the global one, if any.
* `FileTree.ProjectIsAt.find?_projectCandidates` — the search goes through the directories that the
  path of the project visits, the last first.
* `FileTree.locateConfig_isNearest_iff` — so it finds the nearest configuration, unless it comes
  across another one in a directory that is not above the project.
* `FileTree.not_locateConfig_isNearest` — which can happen, on the way down of a `..`.
-/

/-- The segments of the working directory. -/
def Environment.place (env : Environment) : List Segment :=
  (Path.ofText env.workDir.toList).segments

namespace FileTree

/-- The configuration file in a directory, the preferred one first. -/
def configIn? (t : FileTree) (dir : List Segment) : Option (List Segment) :=
  (projectConfigNames.map fun name => dir ++ [name.toList]).find? fun file => (t.file? file).isSome

/-- The nearest configuration file in a directory or above. -/
def nearestConfig? (t : FileTree) (dir : List Segment) : Option (List Segment) :=
  (Path.above dir).findSome? t.configIn?

/-- The global configuration file, if there is one. -/
def globalConfig? (t : FileTree) (env : Environment) : Option String :=
  (env.globalDir?.map (inDirectory · globalConfigName)).filter (t.isFile env.place)

/-- The text leads to this file. -/
def LeadsTo (t : FileTree) (env : Environment) (path : String) (file : List Segment) : Prop :=
  ∃ text, t.resolve env.place path = .ok (.file file text)

/-- The source is the nearest configuration of the directory; where there is none, the global
configuration, if there is one. -/
def IsNearest (t : FileTree) (env : Environment) (dir : List Segment) (source : Option String) :
    Prop :=
  match t.nearestConfig? dir with
  | some file => ∃ path, source = some path ∧ t.LeadsTo env path file
  | none => source = t.globalConfig? env

/-- The bytes that the longest name of a configuration takes, with a separator. -/
def nameRoom : Nat := 17

/-! ### The search -/

/-- What comes after an action goes on from its result. -/
theorem run_bind_of_run_eq {α β : Type} {x : StateM FileTree α} {next : α → StateM FileTree β}
    {a : α} {t t' : FileTree} (h : x.run t = (a, t')) :
    (x >>= next).run t = (next a).run t' := by
  rw [StateT.run_bind, h]
  rfl

section

variable {t : FileTree} {env : Environment}

theorem run_findFile? (input : String) (paths : List String) :
    ((host env input).findFile? paths).run t = (paths.find? (t.isFile env.place), t) := by
  induction paths with
  | nil => rfl
  | cons path rest ih =>
    rw [Host.findFile?]
    show (if t.isFile env.place path then (pure (some path) : StateM FileTree (Option String))
      else (host env input).findFile? rest).run t = _
    cases hfile : t.isFile env.place path with
    | true => rw [List.find?_cons_of_pos hfile]; rfl
    | false =>
      rw [List.find?_cons_of_neg (by rw [hfile]; exact Bool.false_ne_true), ← ih]
      rfl

/-- The search tries the candidates of the project, and then the global configuration. -/
theorem run_locateConfig (input project : String) :
    (locateConfig env (host env input) none project).run t =
      (((projectCandidates (env.projectDir project)).find? (t.isFile env.place)).or
        (t.globalConfig? env), t) := by
  have hglobal : (env.globalDir?.toList.map (inDirectory · globalConfigName)).find?
      (t.isFile env.place) = t.globalConfig? env := by
    unfold globalConfig?
    cases env.globalDir? with
    | none => rfl
    | some dir =>
      show [inDirectory dir globalConfigName].find? (t.isFile env.place) = _
      rw [List.find?_singleton]
      rfl
  rw [← hglobal, ← List.find?_append, ← run_findFile? input]
  rfl

/-! ### The candidates of one directory -/

theorem isFileName_of_mem {name : String} (h : name ∈ projectConfigNames) :
    IsFileName name.toList ∧ 1 + byteLength name.toList ≤ nameRoom := by
  have hboth : ∀ name ∈ projectConfigNames, '/' ∉ name.toList ∧ speaks name.toList = true ∧
      name.toList ≠ parentSegment ∧ 1 + byteLength name.toList ≤ nameRoom := by
    decide +kernel
  obtain ⟨hslash, hspeaks, hparent, hroom⟩ := hboth name h
  have hlimit : nameRoom ≤ nameLimit := by decide
  exact ⟨⟨hslash, hspeaks, hparent, by omega⟩, hroom⟩

theorem isFile_of_resolve_look {path : String} {file : List Segment}
    (h : t.resolve env.place path = .ok (t.look file)) :
    t.isFile env.place path = (t.file? file).isSome := by
  unfold isFile
  rw [h]
  unfold look
  cases t.file? file with
  | some text => rfl
  | none => cases t.isDir file <;> rfl

/-- A text that the search tries is that of a directory, and leaves room for a name. -/
structure IsSearched (t : FileTree) (cs : List Char) : Prop where
  absolute : isAbsolute cs = true
  dir : t.follow (.dir []) (Path.segmentsOf cs) = .ok (.dir (Path.walk (Path.segmentsOf cs)))
  room : byteLength cs + nameRoom ≤ pathLimit

theorem resolve_candidate {cs : List Char} (hcs : t.IsSearched cs) {name : String}
    (hname : name ∈ projectConfigNames) :
    t.resolve env.place (inDirectory (String.ofList cs) name) =
      .ok (t.look (Path.walk (Path.segmentsOf cs) ++ [name.toList])) := by
  obtain ⟨hfile, hshort⟩ := isFileName_of_mem hname
  have hjoin := byteLength_joinText_le cs name.toList
  have hroom := hcs.room
  unfold inDirectory
  rw [String.toList_ofList]
  exact resolve_joinText hfile hcs.absolute hcs.dir (by omega)

/-- The first candidate that is a file is the first of these names in the directory. -/
theorem find?_candidates {cs : List Char} (hcs : t.IsSearched cs) {names : List String}
    (hnames : ∀ name ∈ names, name ∈ projectConfigNames) :
    Option.Rel (t.LeadsTo env)
      ((names.map (inDirectory (String.ofList cs))).find? (t.isFile env.place))
      ((names.map fun name => Path.walk (Path.segmentsOf cs) ++ [name.toList]).find?
        fun file => (t.file? file).isSome) := by
  induction names with
  | nil => exact .none
  | cons name rest ih =>
    have hresolve : t.resolve env.place (inDirectory (String.ofList cs) name) = _ :=
      resolve_candidate hcs (hnames name List.mem_cons_self)
    have hfile := isFile_of_resolve_look hresolve
    rw [List.map_cons, List.map_cons, List.find?_cons, List.find?_cons, hfile]
    cases hfound : t.file? (Path.walk (Path.segmentsOf cs) ++ [name.toList]) with
    | none => exact ih fun name hname => hnames name (List.mem_cons_of_mem _ hname)
    | some text =>
      refine .some ⟨text, ?_⟩
      rw [hresolve, look, hfound]

/-! ### The candidates of all directories -/

/-- The search stops at the first of the directories that has a configuration. -/
theorem find?_flatMap_candidates {dirs : List (List Char)} (hdirs : ∀ cs ∈ dirs, t.IsSearched cs) :
    Option.Rel (t.LeadsTo env)
      ((dirs.flatMap fun cs => projectConfigNames.map (inDirectory (String.ofList cs))).find?
        (t.isFile env.place))
      ((dirs.map fun cs => Path.walk (Path.segmentsOf cs)).findSome? t.configIn?) := by
  induction dirs with
  | nil => exact .none
  | cons cs rest ih =>
    have hfirst : Option.Rel (t.LeadsTo env) _ (t.configIn? (Path.walk (Path.segmentsOf cs))) :=
      find?_candidates (hdirs cs List.mem_cons_self) fun _ hname => hname
    have hrest := ih fun cs hmem => hdirs cs (List.mem_cons_of_mem _ hmem)
    rw [List.flatMap_cons, List.find?_append, List.map_cons, List.findSome?_cons]
    revert hfirst
    generalize (projectConfigNames.map (inDirectory (String.ofList cs))).find? _ = found
    generalize t.configIn? _ = file
    rintro (⟨hleads⟩ | _)
    · exact .some hleads
    · exact hrest

/-! ### The search from a project -/

/-- The project directory is this one, and its path leaves room for a name. -/
structure ProjectIsAt (t : FileTree) (env : Environment) (project : String) (dir : List Segment) :
    Prop where
  absolute : isAbsolute env.workDir.toList = true
  room : byteLength (env.projectDir project).toList + nameRoom ≤ pathLimit
  resolves : t.resolve env.place (env.projectDir project) = .ok (.dir dir)

/-- The directories that the path of a project visits, the last first. -/
def visitedDirs (env : Environment) (project : String) : List (List Segment) :=
  Path.visited (Path.segmentsOf (env.projectDir project).toList)

section

variable {project : String} {dir : List Segment} (h : t.ProjectIsAt env project dir)

include h

theorem ProjectIsAt.isAbsolute_projectDir : isAbsolute (env.projectDir project).toList = true := by
  unfold Environment.projectDir inDirectory
  rw [String.toList_ofList]
  exact Path.isAbsolute_joinText h.absolute _

/-- The project directory is the end of its walk. -/
theorem ProjectIsAt.eq_walk : dir = Path.walk (Path.segmentsOf (env.projectDir project).toList) :=
  eq_foldl_enter_of_follow (fun _ hs => speaks_of_mem_segmentsOf hs)
    (follow_of_resolve h.isAbsolute_projectDir h.resolves)

theorem ProjectIsAt.isSearched {cs : List Char}
    (hcs : cs ∈ Path.ancestorTexts (env.projectDir project).toList) : t.IsSearched cs := by
  obtain ⟨habsolute, hprefix⟩ := Path.isAbsolute_of_mem_ancestorTexts h.isAbsolute_projectDir hcs
  have hpart : Path.segmentsOf cs <+: Path.segmentsOf (env.projectDir project).toList := by
    rw [← Path.mem_above, ← Path.map_segmentsOf_ancestorTexts h.isAbsolute_projectDir]
    exact List.mem_map_of_mem hcs
  have hbytes := byteLength_le_of_prefix hprefix
  have hroom := h.room
  exact ⟨habsolute, follow_walk_of_prefix (fun _ hs => speaks_of_mem_segmentsOf hs)
    (follow_of_resolve h.isAbsolute_projectDir h.resolves) hpart, by omega⟩

/-- The search goes through the directories that the path of the project visits. -/
theorem ProjectIsAt.find?_projectCandidates :
    Option.Rel (t.LeadsTo env)
      ((projectCandidates (env.projectDir project)).find? (t.isFile env.place))
      ((visitedDirs env project).findSome? t.configIn?) := by
  unfold projectCandidates visitedDirs Path.visited
  rw [← Path.map_segmentsOf_ancestorTexts h.isAbsolute_projectDir, List.map_map]
  exact find?_flatMap_candidates fun cs hcs => h.isSearched hcs

end

/-- The first value of a function comes from the first place that has one. -/
theorem findSome?_eq_bind {α β : Type} (f : α → Option β) (l : List α) :
    l.findSome? f = (l.find? fun a => (f a).isSome).bind f := by
  induction l with
  | nil => rfl
  | cons a rest ih =>
    rw [List.findSome?_cons, List.find?_cons]
    cases hf : f a with
    | some b => exact hf.symm
    | none => exact ih

theorem exists_of_configIn? {dir file : List Segment} (h : t.configIn? dir = some file) :
    ∃ name ∈ projectConfigNames, file = dir ++ [name.toList] := by
  obtain ⟨name, hname, heq⟩ := List.mem_map.1 (List.mem_of_find?_eq_some h)
  exact ⟨name, hname, heq.symm⟩

theorem LeadsTo.eq {path : String} {file other : List Segment} (hfile : t.LeadsTo env path file)
    (hother : t.LeadsTo env path other) : file = other := by
  obtain ⟨text, hresolve⟩ := hfile
  obtain ⟨text', hresolve'⟩ := hother
  exact (Target.file.inj (Except.ok.inj (hresolve.symm.trans hresolve'))).1

/-- The configuration of a project directory is not the global one, which has another name. -/
theorem ne_globalConfig_of_leadsTo {dir file : List Segment} {path : String}
    (hfile : t.configIn? dir = some file) (hleads : t.LeadsTo env path file) :
    some path ≠ t.globalConfig? env := by
  intro hglobal
  obtain ⟨text, hresolve⟩ := hleads
  obtain ⟨name, hname, rfl⟩ := exists_of_configIn? hfile
  obtain ⟨hpath, -⟩ := Option.filter_eq_some_iff.1 hglobal.symm
  obtain ⟨globalDir, -, rfl⟩ := Option.map_eq_some_iff.1 hpath
  -- A text leads to files of its last name only.
  have hglobalName : IsFileName globalConfigName.toList :=
    ⟨by decide, by decide, by decide, by decide⟩
  have hlast := getLast?_of_resolve_joinText hglobalName hresolve
  rw [List.getLast?_concat, Option.some.injEq] at hlast
  have hother : ∀ name ∈ projectConfigNames, name.toList ≠ globalConfigName.toList := by
    decide
  exact hother name hname hlast

/-- A run that finds its nearest configuration finds it in a directory above the project. -/
theorem prefix_of_isNearest {dir other file : List Segment} {path : String}
    (hnearest : t.IsNearest env dir (some path)) (hfile : t.configIn? other = some file)
    (hleads : t.LeadsTo env path file) : other <+: dir := by
  unfold IsNearest at hnearest
  split at hnearest
  · rename_i near hnear
    obtain ⟨_, hpath, hleads'⟩ := hnearest
    cases hpath
    -- The file is the nearest one, and its place tells the directory that it is in.
    obtain rfl : near = file := hleads'.eq hleads
    obtain ⟨above, habove, hin⟩ := List.exists_of_findSome?_eq_some hnear
    obtain ⟨name, -, rfl⟩ := exists_of_configIn? hin
    obtain ⟨name', -, heq⟩ := exists_of_configIn? hfile
    obtain rfl : above = other := (List.append_inj' heq rfl).1
    exact Path.mem_above.1 habove
  · exact absurd hnearest (ne_globalConfig_of_leadsTo hfile hleads)

/-- What is found first among the directories that are visited is the nearest configuration exactly
if it is in the project directory or above it. -/
theorem ProjectIsAt.isNearest_iff {project : String} {dir : List Segment}
    (h : t.ProjectIsAt env project dir) {found : Option String}
    (hfound : Option.Rel (t.LeadsTo env) found
      ((visitedDirs env project).findSome? t.configIn?)) :
    t.IsNearest env dir (found.or (t.globalConfig? env)) ↔
      ∀ other, (visitedDirs env project).find? (fun d => (t.configIn? d).isSome) = some other →
        other <+: dir := by
  rw [findSome?_eq_bind] at hfound
  cases hfirst : (visitedDirs env project).find? fun d => (t.configIn? d).isSome with
  | none =>
    -- No directory above the project has a configuration, as all of these are visited.
    rw [hfirst] at hfound
    cases hfound
    have hnone : t.nearestConfig? dir = none := by
      unfold nearestConfig?
      rw [findSome?_eq_bind, h.eq_walk, Path.find?_above_walk_eq_none hfirst]
      rfl
    have hglobal : t.IsNearest env dir ((none : Option String).or (t.globalConfig? env)) := by
      unfold IsNearest
      rw [hnone]
      rfl
    exact iff_of_true hglobal nofun
  | some other =>
    rw [hfirst, Option.bind_some] at hfound
    have hsome := List.find?_some hfirst
    obtain ⟨file, hfile⟩ := Option.isSome_iff_exists.1 hsome
    rw [hfile] at hfound
    obtain ⟨path, rfl, hleads⟩ : ∃ path, found = some path ∧ t.LeadsTo env path file := by
      cases hfound with
      | some hleads => exact ⟨_, rfl, hleads⟩
    rw [Option.some_or]
    constructor
    · rintro hnearest _ ⟨⟩
      exact prefix_of_isNearest hnearest hfile hleads
    · -- What is above the project and visited first is the nearest one above it.
      intro habove
      have hdir : other <+: Path.walk (Path.segmentsOf (env.projectDir project).toList) := by
        rw [← h.eq_walk]
        exact habove other rfl
      have hnearest : t.nearestConfig? dir = some file := by
        unfold nearestConfig?
        rw [findSome?_eq_bind, h.eq_walk, Path.find?_above_walk hfirst hdir]
        exact hfile
      unfold IsNearest
      rw [hnearest]
      exact ⟨path, rfl, hleads⟩

/-- **When the nearest configuration is found.** The search for the configuration of a project
ends with a source, which `check` and `list-rules` use. The source is the nearest configuration
exactly if the first directory with a configuration that the path of the project visits, from its
end on, is the project directory or above it. So it is if the path goes without `..`. -/
theorem locateConfig_isNearest_iff {project : String} {dir : List Segment}
    (h : t.ProjectIsAt env project dir) (input : String) :
    ∃ source,
      (locateConfig env (host env input) none project).run t = (source, t) ∧
      (∀ verbose options,
        (runInvocation env (host env input) ⟨verbose, none, project, .check options⟩).run t =
          (checkCalls env (host env input) source options).run t) ∧
      (∀ verbose,
        (runInvocation env (host env input) ⟨verbose, none, project, .listRules⟩).run t =
          (listRules env (host env input) source).run t) ∧
      (t.IsNearest env dir source ↔
        ∀ other, (visitedDirs env project).find? (fun d => (t.configIn? d).isSome) = some other →
          other <+: dir) ∧
      (parentSegment ∉ Path.segmentsOf (env.projectDir project).toList →
        t.IsNearest env dir source) := by
  have hrun : (locateConfig env (host env input) none project).run t = _ :=
    run_locateConfig input project
  have hnearest := h.isNearest_iff h.find?_projectCandidates
  refine ⟨_, hrun, fun verbose options => ?_, fun verbose => ?_, hnearest, fun hplain => ?_⟩
  · exact run_bind_of_run_eq hrun
  · exact run_bind_of_run_eq hrun
  · -- Without `..` only the directories above the project are visited.
    refine hnearest.2 fun other hother => ?_
    have hvisited : visitedDirs env project = Path.above dir := by
      rw [h.eq_walk, Path.walk_of_not_mem hplain]
      exact Path.visited_of_not_mem hplain
    rw [hvisited] at hother
    exact Path.mem_above.1 (List.mem_of_find?_eq_some hother)

end

/-- The surroundings of a run in a directory, without a global configuration. -/
def runningIn (workDir : String) : Environment where
  workDir := workDir
  configDir := none
  home := none

/-- Two projects beside each other, in a directory with a configuration. -/
def sharedConfig : FileTree where
  files := [(["w".toList, "disallowed.toml".toList], ""),
    (["w".toList, "src".toList, "a".toList], ""), (["w".toList, "lib".toList, "b".toList], "")]
  dirs := []

/-- The configuration above a project is found by way of the project beside it. -/
theorem locateConfig_isNearest_sharedConfig :
    ∃ source, sharedConfig.ProjectIsAt (runningIn "/w") "src/../lib" ["w".toList, "lib".toList] ∧
      (locateConfig (runningIn "/w") (host (runningIn "/w") "") none "src/../lib").run
        sharedConfig = (source, sharedConfig) ∧
      sharedConfig.IsNearest (runningIn "/w") ["w".toList, "lib".toList] source := by
  have h : sharedConfig.ProjectIsAt (runningIn "/w") "src/../lib" ["w".toList, "lib".toList] :=
    ⟨by decide +kernel, by decide +kernel, by decide +kernel⟩
  obtain ⟨source, hrun, -, -, hnearest, -⟩ := locateConfig_isNearest_iff h ""
  refine ⟨source, h, hrun, hnearest.2 fun other hother => ?_⟩
  have hfirst : (visitedDirs (runningIn "/w") "src/../lib").find?
      (fun d => (sharedConfig.configIn? d).isSome) = some ["w".toList] := by
    decide +kernel
  obtain rfl : ["w".toList] = other := Option.some.inj (hfirst.symm.trans hother)
  exact ⟨["lib".toList], rfl⟩

/-- A project with a configuration, and another one beside it without. -/
def ownConfig : FileTree where
  files := [(["proj".toList, "disallowed.toml".toList], ""), (["other".toList, "a".toList], "")]
  dirs := []

/-- It is not true that the search finds the nearest configuration of each project: on the way to
a project beside the working directory it finds that of the working directory. -/
theorem not_locateConfig_isNearest :
    ¬ ∀ (t : FileTree) (env : Environment) (project input : String) (dir : List Segment)
      (source : Option String), t.ProjectIsAt env project dir →
      (locateConfig env (host env input) none project).run t = (source, t) →
      t.IsNearest env dir source := by
  intro hall
  have h : ownConfig.ProjectIsAt (runningIn "/proj") "../other" ["other".toList] :=
    ⟨by decide +kernel, by decide +kernel, by decide +kernel⟩
  have hnearest := hall ownConfig (runningIn "/proj") "../other" "" _ _ h (run_locateConfig _ _)
  have hfirst : (visitedDirs (runningIn "/proj") "../other").find?
      (fun d => (ownConfig.configIn? d).isSome) = some ["proj".toList] := by
    decide +kernel
  have habove := (h.isNearest_iff h.find?_projectCandidates).1 hnearest _ hfirst
  revert habove
  decide

end FileTree

end CallPolicy
