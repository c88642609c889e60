import CallPolicy.Proofs.UnknownArguments

namespace CallPolicy

/-!
# Forbidden places

A rule may forbid calls in some files (`allowExceptIn`) and in some callers
(`allowExceptInCallers`), and allow them elsewhere. This file says what comes out where both are
given.

* `Rule.ForbidsFile`, `Rule.ForbidsCaller` — the place of a call is one of those.
* `Rule.LeavesOpen` — nothing that the rule looks at before has decided on the call.
* `Rule.judge_of_files`, `Rule.judge_of_callers` — what the rule decides then: the callers are
  looked at only if it names no files.
* `Rule.forbids_place_iff` — so the place is forbidden exactly if the file or the caller is,
  unless the rule overlooks the caller.
* `Rule.not_forbids_place` — which can happen.
-/

/-! ### Places as tests -/

theorem anyCovers_iff (globs : List PathGlob) (file : String) :
    anyCovers globs file = true ↔ ∃ g ∈ globs, g.covers file = true := by
  unfold anyCovers
  exact List.any_eq_true

theorem CallSite.isCalledFrom_iff (call : CallSite) (patterns : List SymbolPattern) :
    call.isCalledFrom patterns = true ↔
      ∃ caller, call.caller = some caller ∧ ∃ p ∈ patterns, p.covers caller = true := by
  unfold CallSite.isCalledFrom
  rw [Option.any_eq_true]
  simp only [List.any_eq_true]

namespace Rule

/-! ### Forbidden and open places -/

/-- The rule forbids calls in the file. -/
def ForbidsFile (r : Rule) (file : String) : Prop :=
  ∃ g ∈ r.allowExceptIn, g.covers file = true

/-- The rule forbids calls in the caller of this one. -/
def ForbidsCaller (r : Rule) (call : CallSite) : Prop :=
  ∃ caller, call.caller = some caller ∧ ∃ p ∈ r.allowExceptInCallers, p.covers caller = true

/-- The rule names places in which it forbids calls. -/
def RestrictsPlaces (r : Rule) : Prop :=
  r.allowExceptIn ≠ [] ∨ r.allowExceptInCallers ≠ []

/-- No value of `exceptParams` was passed, and neither the file nor the caller is allowed. -/
structure LeavesOpen (r : Rule) (call : CallSite) (file : String) : Prop where
  no_hit : ∀ position, r.exceptParams.search call.arguments ≠ .hit position
  file : ∀ g ∈ r.allowIn, g.covers file = false
  caller : ∀ caller, call.caller = some caller → ∀ p ∈ r.allowInCallers, p.covers caller = false

/-- The caller is forbidden, but the rule names files, and this is none of them. -/
structure OverlooksCaller (r : Rule) (call : CallSite) (file : String) : Prop where
  files : r.allowExceptIn ≠ []
  file : ¬ r.ForbidsFile file
  caller : r.ForbidsCaller call

theorem LeavesOpen.anyCovers_eq_false {r : Rule} {call : CallSite} {file : String}
    (h : r.LeavesOpen call file) : anyCovers r.allowIn file = false := by
  rw [← Bool.not_eq_true, anyCovers_iff]
  rintro ⟨g, hg, hcovers⟩
  exact Bool.false_ne_true ((h.file g hg).symm.trans hcovers)

theorem LeavesOpen.isCalledFrom_eq_false {r : Rule} {call : CallSite} {file : String}
    (h : r.LeavesOpen call file) : call.isCalledFrom r.allowInCallers = false := by
  rw [← Bool.not_eq_true, call.isCalledFrom_iff]
  rintro ⟨caller, hcaller, p, hp, hcovers⟩
  exact Bool.false_ne_true ((h.caller caller hcaller p hp).symm.trans hcovers)

/-! ### The decision on an open call -/

section

variable {r : Rule} {call : CallSite} {file : String} (hopen : r.LeavesOpen call file)

include hopen

/-- Where nothing has decided before, the forbidden files come first, then the forbidden callers. -/
theorem judge_of_leavesOpen :
    r.judge call file =
      if !r.allowExceptIn.isEmpty then
        if anyCovers r.allowExceptIn file then .disallowed .disallowedPath
        else .exempt .outsideDisallowedPaths
      else if !r.allowExceptInCallers.isEmpty then
        if call.isCalledFrom r.allowExceptInCallers then .disallowed .disallowedCaller
        else .exempt .outsideDisallowedCallers
      else r.judgeArguments call.arguments := by
  have hfile : ¬ anyCovers r.allowIn file = true := by
    rw [hopen.anyCovers_eq_false]
    exact Bool.false_ne_true
  have hcaller : ¬ call.isCalledFrom r.allowInCallers = true := by
    rw [hopen.isCalledFrom_eq_false]
    exact Bool.false_ne_true
  rw [judge_eq_of_no_hit call hopen.no_hit, judgePlace, if_neg hfile, if_neg hcaller]

/-- A rule that names files decides by the file alone. -/
theorem judge_of_files (hfiles : r.allowExceptIn ≠ []) :
    (r.ForbidsFile file → r.judge call file = .disallowed .disallowedPath) ∧
      (¬ r.ForbidsFile file → r.judge call file = .exempt .outsideDisallowedPaths) := by
  have hsome : (!r.allowExceptIn.isEmpty) = true := by simpa using hfiles
  rw [judge_of_leavesOpen hopen, if_pos hsome]
  constructor
  · intro hforbids
    rw [if_pos ((anyCovers_iff _ _).2 hforbids)]
  · intro hnot
    rw [if_neg (fun hcovers => hnot ((anyCovers_iff _ _).1 hcovers))]

/-- A rule that names callers and no files decides by the caller. -/
theorem judge_of_callers (hfiles : r.allowExceptIn = []) (hcallers : r.allowExceptInCallers ≠ []) :
    (r.ForbidsCaller call → r.judge call file = .disallowed .disallowedCaller) ∧
      (¬ r.ForbidsCaller call → r.judge call file = .exempt .outsideDisallowedCallers) := by
  have hnone : ¬ (!r.allowExceptIn.isEmpty) = true := by simp [hfiles]
  have hsome : (!r.allowExceptInCallers.isEmpty) = true := by simpa using hcallers
  rw [judge_of_leavesOpen hopen, if_neg hnone, if_pos hsome]
  constructor
  · intro hforbids
    rw [if_pos ((call.isCalledFrom_iff _).2 hforbids)]
  · intro hnot
    rw [if_neg (fun hcalled => hnot ((call.isCalledFrom_iff _).1 hcalled))]

/-- The call is forbidden for its file, or for its caller if the rule names no files. -/
theorem isExempt_eq_false_iff (hplaces : r.RestrictsPlaces) :
    (r.judge call file).isExempt = false ↔
      r.ForbidsFile file ∨ r.allowExceptIn = [] ∧ r.ForbidsCaller call := by
  by_cases hfiles : r.allowExceptIn = []
  · have hcallers : r.allowExceptInCallers ≠ [] := hplaces.resolve_left (not_not_intro hfiles)
    have hnone : ¬ r.ForbidsFile file := by
      rintro ⟨g, hg, -⟩
      rw [hfiles] at hg
      exact List.not_mem_nil hg
    obtain ⟨hforbidden, hallowed⟩ := judge_of_callers hopen hfiles hcallers
    by_cases hcaller : r.ForbidsCaller call
    · simp [hforbidden hcaller, hfiles, hcaller, Exemption.isExempt]
    · simp [hallowed hcaller, hnone, hcaller, Exemption.isExempt]
  · obtain ⟨hforbidden, hallowed⟩ := judge_of_files hopen hfiles
    by_cases hfile : r.ForbidsFile file
    · simp [hforbidden hfile, hfile, Exemption.isExempt]
    · simp [hallowed hfile, hfile, hfiles, Exemption.isExempt]

end

/-! ### Files and callers together -/

/-- **When both restrictions count.** Let a rule name files or callers in which it forbids calls,
and let nothing before decide on a call. That the call is forbidden exactly if its file or its
caller is, holds exactly if the rule does not overlook the caller. So it holds of every call for a
rule that names only files or only callers; a call whose caller is overlooked is exempt. -/
theorem forbids_place_iff {r : Rule} {call : CallSite} {file : String}
    (hopen : r.LeavesOpen call file) (hplaces : r.RestrictsPlaces) :
    (((r.judge call file).isExempt = false ↔ r.ForbidsFile file ∨ r.ForbidsCaller call) ↔
      ¬ r.OverlooksCaller call file) ∧
    (r.allowExceptIn = [] ∨ r.allowExceptInCallers = [] →
      ((r.judge call file).isExempt = false ↔ r.ForbidsFile file ∨ r.ForbidsCaller call)) ∧
    (r.OverlooksCaller call file → r.judge call file = .exempt .outsideDisallowedPaths) := by
  have hexact : ((r.judge call file).isExempt = false ↔
      r.ForbidsFile file ∨ r.ForbidsCaller call) ↔ ¬ r.OverlooksCaller call file := by
    rw [isExempt_eq_false_iff hopen hplaces]
    -- The decision asks that no files are named before it looks at the caller.
    constructor
    · intro hiff hoverlooks
      rcases hiff.2 (Or.inr hoverlooks.caller) with hfile | ⟨hfiles, -⟩
      · exact hoverlooks.file hfile
      · exact hoverlooks.files hfiles
    · intro hnot
      refine or_congr_right' fun hfile => ⟨And.right, fun hcaller => ⟨?_, hcaller⟩⟩
      by_contra hfiles
      exact hnot ⟨hfiles, hfile, hcaller⟩
  refine ⟨hexact, fun hone => hexact.2 fun hoverlooks => ?_, fun hoverlooks => ?_⟩
  · rcases hone with hfiles | hcallers
    · exact hoverlooks.files hfiles
    · obtain ⟨caller, -, p, hp, -⟩ := hoverlooks.caller
      rw [hcallers] at hp
      exact List.not_mem_nil hp
  · exact (judge_of_files hopen hoverlooks.files).2 hoverlooks.file

/-- Calls of `Foo::bar` are forbidden in the file `src/web.php` and in the class `App`. -/
def forbiddenInWebAndApp : List Clause :=
  [.call ⟨"Foo::bar", .named "foo::bar"⟩,
    .allowExceptIn ⟨"src/web.php", "/src/web.php", "/src/web.php".toList.map .literal⟩,
    .allowExceptInCaller ⟨"App::*", .members (.inClass "app") ""⟩]

/-- The rule of these clauses leaves every call open. -/
theorem leavesOpen_forbiddenInWebAndApp {r : Rule}
    (h : Rule.assemble .method forbiddenInWebAndApp = .ok r) (call : CallSite) (file : String) :
    r.LeavesOpen call file := by
  cases h
  refine ⟨fun position hhit => ?_, nofun, nofun⟩
  exact SearchResult.noConfusion hhit

/-- In the file that the rule names both restrictions count, for a caller that it names too. -/
theorem forbids_place_iff_web :
    ∃ r, Rule.assemble .method forbiddenInWebAndApp = .ok r ∧
      r.LeavesOpen (callInApp .null) "/src/web.php" ∧ r.RestrictsPlaces ∧
      r.ForbidsCaller (callInApp .null) ∧
      ((r.judge (callInApp .null) "/src/web.php").isExempt = false ↔
        r.ForbidsFile "/src/web.php" ∨ r.ForbidsCaller (callInApp .null)) := by
  have hopen := leavesOpen_forbiddenInWebAndApp rfl (callInApp .null) "/src/web.php"
  refine ⟨_, rfl, hopen, Or.inl (List.cons_ne_nil _ _), ⟨_, rfl, _, List.mem_singleton_self _, rfl⟩,
    (forbids_place_iff hopen (Or.inl (List.cons_ne_nil _ _))).1.2 fun hoverlooks => ?_⟩
  refine hoverlooks.file ⟨_, List.mem_singleton_self _, ?_⟩
  decide +kernel

/-- It is not true that a call which is left open is forbidden exactly if its file or its caller
is: a rule that names files does not look at the caller. -/
theorem not_forbids_place :
    ¬ ∀ (kind : RuleKind) (clauses : List Clause) (r : Rule) (call : CallSite) (file : String),
      Rule.assemble kind clauses = .ok r → r.RestrictsPlaces → r.LeavesOpen call file →
      ((r.judge call file).isExempt = false ↔ r.ForbidsFile file ∨ r.ForbidsCaller call) := by
  intro h
  have hopen := leavesOpen_forbiddenInWebAndApp rfl (callInApp .null) "/src/a.php"
  have hiff := h .method forbiddenInWebAndApp _ (callInApp .null) "/src/a.php" rfl
    (Or.inl (List.cons_ne_nil _ _)) hopen
  have hforbidden := hiff.2 (Or.inr ⟨_, rfl, _, List.mem_singleton_self _, rfl⟩)
  revert hforbidden
  decide +kernel

end Rule

end CallPolicy
