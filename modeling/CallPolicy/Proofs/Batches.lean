import CallPolicy.Proofs.SharedRoot

namespace CallPolicy

/-!
# Batches of calls

A batch is checked call by call, and its report decides how a run ends. The report of a batch is
put together from those of its parts, so a run fails if one of its parts would.

* `Engine.evaluateAll_eq_foldl` — the report of a batch grows call by call.
* `Engine.evaluateAll_append` — the report of two batches is that of the first and that of the
  second.
* `Report.count_add_count_add_count`, `Report.reaches_iff_count` — the counts of a report tell how
  many diagnostics it has, and whether some of them matter.
* `CheckRun` — a check that gets past loading and parsing.
* `CheckRun.exitCode_eq_one_iff` — it fails exactly if a diagnostic reaches the threshold.
* `batches_decide_exit` — all of this, and what it means for batches that are put together.
-/

/-! ### Reports -/

namespace Report

theorem add_assoc (a b c : Report) : (a.add b).add c = a.add (b.add c) := by
  unfold add
  rw [List.append_assoc, UInt64.add_assoc]

theorem empty_add (r : Report) : empty.add r = r := by
  unfold add empty
  rw [List.nil_append, UInt64.zero_add]

/-- Every diagnostic has one of the three severities. -/
theorem count_add_count_add_count (r : Report) :
    r.count .error + r.count .warning + r.count .info = r.diagnostics.length := by
  unfold count
  induction r.diagnostics with
  | nil => rfl
  | cons d rest ih =>
    rw [List.countP_cons, List.countP_cons, List.countP_cons, List.length_cons, ← ih]
    cases d.severity <;> simp <;> omega

theorem count_ne_zero_iff (r : Report) (s : Severity) :
    r.count s ≠ 0 ↔ ∃ d ∈ r.diagnostics, d.severity = s := by
  unfold count
  rw [← Nat.pos_iff_ne_zero, List.countP_pos_iff]
  simp only [beq_iff_eq]

theorem reaches_iff (r : Report) (threshold : Severity) :
    r.reaches threshold = true ↔ ∃ d ∈ r.diagnostics, threshold.rank ≤ d.severity.rank := by
  unfold reaches Severity.reaches
  rw [List.any_eq_true]
  simp only [decide_eq_true_eq]

/-- The counts tell whether some diagnostic matters. -/
theorem reaches_iff_count (r : Report) (threshold : Severity) :
    r.reaches threshold = true ↔ ∃ s : Severity, threshold.rank ≤ s.rank ∧ r.count s ≠ 0 := by
  simp only [reaches_iff, count_ne_zero_iff]
  constructor
  · rintro ⟨d, hd, hrank⟩
    exact ⟨d.severity, hrank, d, hd, rfl⟩
  · rintro ⟨s, hrank, d, hd, rfl⟩
    exact ⟨d, hd, hrank⟩

/-- The report of two batches matters as much as either. -/
theorem reaches_add (a b : Report) (threshold : Severity) :
    (a.add b).reaches threshold = (a.reaches threshold || b.reaches threshold) :=
  List.any_append

end Report

/-! ### Call by call -/

namespace Engine

/-- The report with one more call. -/
def next (e : Engine) (r : Report) (call : CallSite) : Report where
  diagnostics := r.diagnostics ++ e.evaluate call
  callSitesChecked := r.callSitesChecked + 1

theorem evaluateAll_append (e : Engine) (xs ys : List CallSite) :
    e.evaluateAll (xs ++ ys) = (e.evaluateAll xs).add (e.evaluateAll ys) := by
  unfold evaluateAll Report.add
  rw [List.flatMap_append, List.length_append, UInt64.ofNat_add]

theorem evaluateAll_singleton (e : Engine) (call : CallSite) :
    e.evaluateAll [call] = ⟨e.evaluate call, 1⟩ := by
  unfold evaluateAll
  rw [List.flatMap_singleton]
  rfl

/-- One more call adds the report of a batch of its own. -/
theorem next_eq (e : Engine) (r : Report) (call : CallSite) :
    e.next r call = r.add (e.evaluateAll [call]) := by
  rw [evaluateAll_singleton]
  rfl

/-- Going through more calls adds the report of their batch. -/
theorem foldl_next (e : Engine) (r : Report) (calls : List CallSite) :
    calls.foldl e.next r = r.add (e.evaluateAll calls) := by
  induction calls generalizing r with
  | nil =>
    show r = ⟨r.diagnostics ++ [], r.callSitesChecked + 0⟩
    rw [List.append_nil, UInt64.add_zero]
  | cons call rest ih =>
    rw [List.foldl_cons, ih, next_eq, Report.add_assoc, ← evaluateAll_append,
      List.singleton_append]

/-- The report of a batch grows call by call. -/
theorem evaluateAll_eq_foldl (e : Engine) (calls : List CallSite) :
    e.evaluateAll calls = calls.foldl e.next .empty := by
  rw [foldl_next, Report.empty_add]

/-- All calls are counted, as far as 64 bits can count. -/
theorem toNat_callSitesChecked (e : Engine) {calls : List CallSite}
    (h : calls.length < UInt64.size) :
    (e.evaluateAll calls).callSitesChecked.toNat = calls.length :=
  UInt64.toNat_ofNat_of_lt' h

end Engine

/-! ### Runs -/

/-- The least severity that fails a check. -/
def Setup.threshold (s : Setup) (options : CheckOptions) : Severity :=
  options.failOn.getD s.settings.engine.failOn

/-- A check goes on from the configuration file that is found. -/
theorem run_eq_checkCalls {arguments : List String} {i : Invocation} {options : CheckOptions}
    (hparse : Invocation.parse arguments = .ok i) (hcheck : i.command = .check options)
    {t : FileTree} {env : Environment} {input : String} {source : Option String}
    (hsource : (locateConfig env (FileTree.host env input) i.config i.project).run t =
      (source, t)) :
    (run env (FileTree.host env input) arguments).run t =
      (checkCalls env (FileTree.host env input) source options).run t := by
  unfold run
  rw [hparse]
  show (runInvocation env (FileTree.host env input) i).run t = _
  unfold runInvocation
  rw [hcheck]
  exact FileTree.run_bind_of_run_eq hsource

/-- A check that gets past loading and parsing: what it finds in its files and its standard input,
with the configuration that is loaded as `s`. -/
structure CheckRun (env : Environment) (s : Setup) where
  tree : FileTree
  input : String
  arguments : List String
  invocation : Invocation
  options : CheckOptions
  source : Option String
  text : String
  calls : List CallSite
  parsed : Invocation.parse arguments = .ok invocation
  isCheck : invocation.command = .check options
  located : (locateConfig env (FileTree.host env input) invocation.config invocation.project).run
    tree = (source, tree)
  loaded : (loadSetup env (FileTree.host env input) source options.root).run tree = (.ok s, tree)
  read : (readCalls (FileTree.host env input) options.calls).run tree = (.ok text, tree)
  written : readCallSites text = .ok calls

namespace CheckRun

variable {env : Environment} {s : Setup}

/-- What the program does in such a run. -/
def outcome (r : CheckRun env s) : Outcome :=
  ((run env (FileTree.host env r.input) r.arguments).run r.tree).1

/-- The report of such a run. -/
def report (r : CheckRun env s) : Report :=
  (s.engine env).evaluateAll r.calls

/-- What is done once the call sites are read. -/
theorem outcome_eq (r : CheckRun env s) : r.outcome = s.outcome env r.options r.calls := by
  have hrun := run_eq_checkCalls r.parsed r.isCheck r.located
  have hread : (checkCalls env (FileTree.host env r.input) r.source r.options).run r.tree =
      (s.outcome env r.options r.calls, r.tree) := by
    refine (FileTree.run_bind_of_run_eq r.loaded).trans ?_
    refine (FileTree.run_bind_of_run_eq r.read).trans ?_
    dsimp only
    rw [r.written]
    rfl
  rw [outcome, hrun, hread]

/-- The exit code looks at the diagnostics only, whatever the format. -/
theorem exitCode_eq (r : CheckRun env s) :
    r.outcome.exitCode = if r.report.reaches (s.threshold r.options) then 1 else 0 := by
  rw [outcome_eq]
  rfl

theorem exitCode_eq_one_iff (r : CheckRun env s) :
    r.outcome.exitCode = 1 ↔ r.report.reaches (s.threshold r.options) = true := by
  rw [exitCode_eq]
  cases r.report.reaches (s.threshold r.options) <;> decide

/-- A batch that is put together from two fails exactly if one of the two does. -/
theorem exitCode_eq_one_iff_of_append {r p q : CheckRun env s}
    (hcalls : r.calls = p.calls ++ q.calls) (hp : p.options.failOn = r.options.failOn)
    (hq : q.options.failOn = r.options.failOn) :
    r.outcome.exitCode = 1 ↔ p.outcome.exitCode = 1 ∨ q.outcome.exitCode = 1 := by
  have hreport : r.report = p.report.add q.report := by
    unfold report
    rw [hcalls, Engine.evaluateAll_append]
  have hthreshold : s.threshold p.options = s.threshold r.options ∧
      s.threshold q.options = s.threshold r.options := by
    unfold Setup.threshold
    rw [hp, hq]
    exact ⟨rfl, rfl⟩
  rw [exitCode_eq_one_iff, exitCode_eq_one_iff, exitCode_eq_one_iff, hthreshold.1, hthreshold.2,
    hreport, Report.reaches_add, Bool.or_eq_true]

end CheckRun

/-- Reading the calls leaves the files as they are. -/
theorem exists_run_readCalls (t : FileTree) (env : Environment) (input : String)
    (calls : Option String) :
    ∃ read, (readCalls (FileTree.host env input) calls).run t = (read, t) := by
  unfold readCalls
  cases calls.filter (!isInputName ·) with
  | none => exact ⟨_, rfl⟩
  | some path => exact ⟨_, rfl⟩

/-- A check that ends without a failure got past loading and parsing. -/
theorem exists_checkRun {arguments : List String} {i : Invocation} {options : CheckOptions}
    (hparse : Invocation.parse arguments = .ok i) (hcheck : i.command = .check options)
    {t : FileTree} {env : Environment} {input : String}
    (h : ((run env (FileTree.host env input) arguments).run t).1.failure = none) :
    ∃ (s : Setup) (r : CheckRun env s),
      r.tree = t ∧ r.input = input ∧ r.arguments = arguments ∧ r.options = options := by
  obtain ⟨source, hsource⟩ := FileTree.exists_run_locateConfig t env input i.config i.project
  obtain ⟨loaded, hload, -⟩ := FileTree.exists_run_loadSetup t env input source options.root
  obtain ⟨read, hread⟩ := exists_run_readCalls t env input options.calls
  rw [run_eq_checkCalls hparse hcheck hsource] at h
  unfold checkCalls at h
  rw [FileTree.run_bind_of_run_eq hload] at h
  -- Whatever fails on the way is the failure of the run.
  cases loaded with
  | error f => cases h
  | ok s =>
    dsimp only at h
    rw [FileTree.run_bind_of_run_eq hread] at h
    cases read with
    | error f => cases h
    | ok text =>
      dsimp only at h
      cases hcalls : readCallSites text with
      | error e =>
        rw [hcalls] at h
        cases h
      | ok calls =>
        exact ⟨s, ⟨t, input, arguments, i, options, source, text, calls, hparse, hcheck, hsource,
          hload, hread, hcalls⟩, rfl, rfl, rfl, rfl⟩

/-- **Batches.** The report of a batch grows call by call, so that of two batches has the
diagnostics of the first and then those of the second, and counts the calls of both. The counts by
severity make up all diagnostics, and tell whether some of them matter. A check without a failure
exits with 1 if some diagnostic reaches the threshold, and with 0 if none does, whatever the format;
on two batches that are put together it exits with 1 exactly if it does so on one of the two. -/
theorem batches_decide_exit :
    (∀ (e : Engine) (xs ys : List CallSite),
      e.evaluateAll xs = xs.foldl e.next .empty ∧
      (e.evaluateAll (xs ++ ys)).diagnostics =
        (e.evaluateAll xs).diagnostics ++ (e.evaluateAll ys).diagnostics ∧
      (e.evaluateAll (xs ++ ys)).callSitesChecked =
        (e.evaluateAll xs).callSitesChecked + (e.evaluateAll ys).callSitesChecked ∧
      (xs.length < UInt64.size → (e.evaluateAll xs).callSitesChecked.toNat = xs.length)) ∧
    (∀ r : Report, r.count .error + r.count .warning + r.count .info = r.diagnostics.length ∧
      ∀ threshold : Severity, r.reaches threshold = true ↔
        ∃ s : Severity, threshold.rank ≤ s.rank ∧ r.count s ≠ 0) ∧
    (∀ (arguments : List String) (i : Invocation) (options : CheckOptions),
      Invocation.parse arguments = .ok i → i.command = .check options →
      ∀ (t : FileTree) (env : Environment) (input : String),
        ((run env (FileTree.host env input) arguments).run t).1.failure = none →
        ∃ (s : Setup) (r : CheckRun env s),
          r.tree = t ∧ r.input = input ∧ r.arguments = arguments ∧ r.options = options) ∧
    ∀ (env : Environment) (s : Setup) (r : CheckRun env s),
      (r.outcome.exitCode = if ∃ d ∈ r.report.diagnostics,
        (s.threshold r.options).rank ≤ d.severity.rank then 1 else 0) ∧
      ∀ p q : CheckRun env s, r.calls = p.calls ++ q.calls →
        p.options.failOn = r.options.failOn → q.options.failOn = r.options.failOn →
        (r.outcome.exitCode = 1 ↔ p.outcome.exitCode = 1 ∨ q.outcome.exitCode = 1) := by
  refine ⟨fun e xs ys => ?_, fun r => ?_, ?_, fun env s r => ⟨?_, ?_⟩⟩
  · have happend := e.evaluateAll_append xs ys
    exact ⟨e.evaluateAll_eq_foldl xs, congrArg Report.diagnostics happend,
      congrArg Report.callSitesChecked happend, e.toNat_callSitesChecked⟩
  · exact ⟨r.count_add_count_add_count, r.reaches_iff_count⟩
  · intro arguments i options hparse hcheck t env input
    exact exists_checkRun hparse hcheck
  · rw [r.exitCode_eq]
    simp only [Report.reaches_iff]
  · intro p q
    exact CheckRun.exitCode_eq_one_iff_of_append

/-- A project in which calls of `exec` are to be warned of, and warnings fail a check. -/
def warnedOfExec : FileTree where
  files := [(["w".toList, "rules".toList], "[engine]\nfail-on = 'warning'\n\n" ++
    "[[disallowed-function-calls]]\nfunction = 'exec()'\nseverity = 'warning'\n")]
  dirs := []

/-- What the configuration of this project is loaded as. -/
def warnedOfExecSetup : Setup where
  settings := ⟨⟨"/w", .warning⟩⟩
  rules := ⟨[{ Rule.blank .function with
    calls := [⟨"exec", .named "exec"⟩], severity := .warning }]⟩

/-- A call of a function in the file `a.php`. -/
def callOfFunction (name : String) : CallSite where
  invoked := ⟨.function, .global, name, name⟩
  declaring := ⟨.function, .global, name, name⟩
  alsoDeclaredIn := []
  caller := none
  file := "a.php"
  line := 1
  arguments := []

/-- The text of such a call. -/
def textOfCall (name : String) : String :=
  "\x7b\"kind\":\"function\",\"invoked\":\"" ++ name ++ "\",\"file\":\"a.php\",\"line\":1\x7d"

/-- A check of this project, with its calls in the standard input. -/
def checkOfExec (arguments : List String) (format : ReportFormat) (input : String)
    (calls : List CallSite)
    (parsed : Invocation.parse arguments =
      .ok ⟨false, some "rules", ".", .check ⟨none, format, none, none⟩⟩)
    (written : readCallSites input = .ok calls) :
    CheckRun (FileTree.runningIn "/w") warnedOfExecSetup where
  tree := warnedOfExec
  input := input
  arguments := arguments
  invocation := ⟨false, some "rules", ".", .check ⟨none, format, none, none⟩⟩
  options := ⟨none, format, none, none⟩
  source := some "rules"
  text := input
  calls := calls
  parsed := parsed
  isCheck := rfl
  located := rfl
  loaded := by
    -- The standard input is not looked at.
    change (loadSetup (FileTree.runningIn "/w") (FileTree.host (FileTree.runningIn "/w") "")
      (some "rules") none).run warnedOfExec = _
    change (_ : Except Failure Setup × FileTree) = _
    decide +kernel
  read := rfl
  written := written

/-- A call of `strlen` passes, one of `exec` does not, and so the two together do not, in any
format. -/
theorem batches_decide_exit_execWarned :
    ∃ r p q : CheckRun (FileTree.runningIn "/w") warnedOfExecSetup,
      r.calls = [callOfFunction "strlen", callOfFunction "exec"] ∧
      p.calls = [callOfFunction "strlen"] ∧ q.calls = [callOfFunction "exec"] ∧
      r.options.format = .json ∧ q.options.format = .compact ∧
      r.report.callSitesChecked.toNat = 2 ∧ q.outcome.exitCode = 1 ∧ r.outcome.exitCode = 1 := by
  let r := checkOfExec ["check", "--config", "rules", "-f", "json"] .json
    ("[" ++ textOfCall "strlen" ++ "," ++ textOfCall "exec" ++ "]")
    [callOfFunction "strlen", callOfFunction "exec"] (by decide +kernel) (by decide +kernel)
  let p := checkOfExec ["check", "--config", "rules"] .text (textOfCall "strlen")
    [callOfFunction "strlen"] (by decide +kernel) (by decide +kernel)
  let q := checkOfExec ["check", "-f", "compact", "--config", "rules"] .compact (textOfCall "exec")
    [callOfFunction "exec"] (by decide +kernel) (by decide +kernel)
  obtain ⟨hreports, -, -, hruns⟩ := batches_decide_exit
  have hlength : r.calls.length < UInt64.size := by
    change 2 < UInt64.size
    decide
  have hcount := (hreports (warnedOfExecSetup.engine (FileTree.runningIn "/w")) r.calls []).2.2.2
    hlength
  have hforbidden : ∃ d ∈ ((warnedOfExecSetup.engine (FileTree.runningIn "/w")).evaluateAll
      [callOfFunction "exec"]).diagnostics, Severity.warning.rank ≤ d.severity.rank := by
    decide +kernel
  have hq : q.outcome.exitCode = 1 := (hruns _ _ q).1.trans (if_pos hforbidden)
  have hr := ((hruns _ _ r).2 p q rfl rfl rfl).2 (Or.inr hq)
  exact ⟨r, p, q, rfl, rfl, rfl, rfl, rfl, hcount, hq, hr⟩

end CallPolicy
