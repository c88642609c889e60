import CallPolicy.Proofs.Batches
import CallPolicy.Proofs.Messages
import CallPolicy.Proofs.RecasedReports

namespace CallPolicy

open Text

/-!
# Compact reports

A compact report writes each diagnostic and a line feed. A diagnostic is made of texts of the
configuration (message, identifier, tip, pattern) and of the analysed code (file and names), and
nothing keeps line feeds out of these. So a diagnostic may take up several lines, which may look
like diagnostics themselves.

* `printedLines` — the lines of an output.
* `Report.printedLines_compact` — those of a compact report are the pieces of its diagnostics.
* `Report.length_printedLines_compact` — there is one for each diagnostic, and one for each line
  feed in a diagnostic.
* `OneLine` — a text without a line feed.
* `Finding.IsOneLine` — the texts that a finding is told with have no line feed.
* `Finding.oneLine_diagnostic_iff` — exactly then its diagnostic has none.
* `compact_report_lines` — so a check prints one line for each diagnostic exactly if all of its
  findings are such.
* `not_compact_report_lines` — a file may be named like a diagnostic.
-/

/-! ### Lines -/

/-- The pieces of a text between its line feeds. -/
def pieces (text : String) : List String :=
  (splitOn '\n' text.toList).map String.ofList

/-- The lines of an output. Each of them ends with a line feed, so what stands behind the last one
is no line. -/
def printedLines (output : String) : List String :=
  (pieces output).dropLast

/-- There is one piece more than there are line feeds. -/
theorem length_pieces (text : String) :
    (pieces text).length = text.toList.count '\n' + 1 := by
  unfold pieces
  rw [List.length_map, length_splitOn]

/-- A line feed cuts a text. -/
theorem pieces_append (front rest : String) :
    pieces (front ++ "\n" ++ rest) = pieces front ++ pieces rest := by
  have hlist : (front ++ "\n" ++ rest).toList = front.toList ++ '\n' :: rest.toList := by simp
  unfold pieces
  rw [hlist, splitOn_eq, splitOn_eq, splitOn_eq, List.splitOn_append_cons_self, List.map_append]

/-- Texts that are written with a line feed each have their pieces for lines. -/
theorem printedLines_join (texts : List String) :
    printedLines (String.join (texts.map (· ++ "\n"))) = texts.flatMap pieces := by
  have hpieces : pieces (String.join (texts.map (· ++ "\n"))) = texts.flatMap pieces ++ [""] := by
    induction texts with
    | nil => rfl
    | cons text rest ih =>
      rw [List.map_cons, String.join_cons, pieces_append, ih, List.flatMap_cons, List.append_assoc]
  unfold printedLines
  rw [hpieces, List.dropLast_concat]

/-! ### Texts without line feeds -/

/-- The text has no line feed. -/
def OneLine (text : String) : Prop :=
  '\n' ∉ text.toList

instance : DecidablePred OneLine :=
  fun text => inferInstanceAs (Decidable ('\n' ∉ text.toList))

theorem oneLine_iff_count (text : String) : OneLine text ↔ text.toList.count '\n' = 0 :=
  List.count_eq_zero.symm

theorem pieces_of_oneLine {text : String} (h : OneLine text) : pieces text = [text] := by
  unfold pieces
  rw [splitOn_eq, List.splitOn_eq_singleton h, List.map_singleton, String.ofList_toList]

@[simp] theorem oneLine_append (a b : String) : OneLine (a ++ b) ↔ OneLine a ∧ OneLine b := by
  unfold OneLine
  rw [String.toList_append, List.mem_append, not_or]

/-- The digits of a number are on one line. -/
@[simp] theorem oneLine_repr (n : Nat) : OneLine n.repr := by
  intro hmem
  rw [Nat.toList_repr] at hmem
  exact absurd (Nat.isDigit_of_mem_toDigits (by decide) (by decide) hmem) (by decide)

@[simp] theorem Severity.oneLine_name (s : Severity) : OneLine s.name := by
  cases s <;> decide

@[simp] theorem SymbolKind.oneLine_identifier (kind : SymbolKind) : OneLine kind.identifier := by
  cases kind <;> decide

/-- A diagnostic is on one line exactly if its file, identifier, message and tip are. -/
theorem Diagnostic.oneLine_line_iff (d : Diagnostic) :
    OneLine d.line ↔ OneLine d.location.file ∧ OneLine d.identifier ∧ OneLine d.message ∧
      ∀ tip, d.tip = some tip → OneLine tip := by
  unfold Diagnostic.line Location.display
  cases d.tip with
  | none => simp +decide [toString, and_assoc]
  | some tip => simp +decide [toString, and_assoc]

/-- A message is on one line exactly if the names in it are, and the reason. -/
theorem oneLine_sentence_iff (candidate invoked pattern : String) (aliased : Bool)
    (reason : String) :
    OneLine (sentence candidate invoked pattern aliased reason) ↔
      OneLine candidate ∧ (aliased = true → OneLine invoked) ∧ OneLine reason ∧
        OneLine pattern := by
  have hclause : OneLine (if aliased then " (as " ++ invoked ++ "())" else "") ↔
      (aliased = true → OneLine invoked) := by
    cases aliased <;> simp +decide
  have hreason : OneLine (if reason = "" then "." else ", " ++ reason) ↔ OneLine reason := by
    split
    · rename_i hempty
      rw [hempty]
      decide
    · simp +decide
  -- A pattern that is not quoted is spelled like the candidate.
  have hquote : OneLine candidate → (OneLine (if candidate = pattern then "" else
      " [" ++ candidate ++ "() matches " ++ pattern ++ "()]") ↔ OneLine pattern) := by
    intro hcandidate
    split
    · rename_i hsame
      rw [← hsame]
      exact iff_of_true (by decide) hcandidate
    · simp +decide [hcandidate]
  unfold sentence
  simp +decide only [oneLine_append, hclause, hreason, true_and, and_true]
  constructor
  · rintro ⟨⟨⟨hcandidate, hinvoked⟩, hreason⟩, hpattern⟩
    exact ⟨hcandidate, hinvoked, hreason, (hquote hcandidate).1 hpattern⟩
  · rintro ⟨hcandidate, hinvoked, hreason, hpattern⟩
    exact ⟨⟨⟨hcandidate, hinvoked⟩, hreason⟩, (hquote hcandidate).2 hpattern⟩

/-! ### Findings -/

/-- The texts that a finding is told with have no line feed: those of the code, and those of the
rule. -/
structure Finding.IsOneLine (f : Finding) : Prop where
  file : OneLine f.call.file
  candidate : OneLine f.candidate.display
  invoked : f.isAliased = true → OneLine f.call.invoked.display
  pattern : OneLine f.found.pattern.text
  reason : OneLine f.found.rule.message
  identifier : ∀ text, f.found.rule.errorIdentifier = some text → OneLine text
  tip : ∀ text, f.found.rule.errorTip = some text → OneLine text

/-- These are all texts of a diagnostic that may have a line feed. -/
theorem Finding.oneLine_diagnostic_iff (f : Finding) : OneLine f.diagnostic.line ↔ f.IsOneLine := by
  have hidentifier : OneLine f.diagnostic.identifier ↔
      ∀ text, f.found.rule.errorIdentifier = some text → OneLine text := by
    unfold diagnostic
    cases f.found.rule.errorIdentifier with
    | none => simp
    | some text => simp
  have hmessage : OneLine f.diagnostic.message ↔ OneLine f.candidate.display ∧
      (f.isAliased = true → OneLine f.call.invoked.display) ∧ OneLine f.found.rule.message ∧
        OneLine f.found.pattern.text := by
    show OneLine f.message ↔ _
    rw [message_eq_sentence, oneLine_sentence_iff]
  rw [Diagnostic.oneLine_line_iff, hidentifier, hmessage]
  constructor
  · rintro ⟨hfile, hidentifier, ⟨hcandidate, hinvoked, hreason, hpattern⟩, htip⟩
    exact ⟨hfile, hcandidate, hinvoked, hpattern, hreason, hidentifier, htip⟩
  · intro h
    exact ⟨h.file, h.identifier, ⟨h.candidate, h.invoked, h.reason, h.pattern⟩, h.tip⟩

/-! ### Reports -/

namespace Report

/-- The lines of a compact report are the pieces of its diagnostics. -/
theorem printedLines_compact (r : Report) :
    printedLines (r.render .compact) = r.diagnostics.flatMap fun d => pieces d.line := by
  have hrender : r.render .compact =
      String.join ((r.diagnostics.map Diagnostic.line).map (· ++ "\n")) := by
    rw [List.map_map]
    rfl
  rw [hrender, printedLines_join, List.flatMap_map]

/-- There is a line for each diagnostic, and one for each line feed in a diagnostic. -/
theorem length_printedLines_compact (r : Report) :
    (printedLines (r.render .compact)).length =
      r.diagnostics.length + (r.diagnostics.map fun d => d.line.toList.count '\n').sum := by
  rw [printedLines_compact]
  induction r.diagnostics with
  | nil => rfl
  | cons d rest ih =>
    rw [List.flatMap_cons, List.length_append, ih, length_pieces, List.length_cons, List.map_cons,
      List.sum_cons]
    omega

/-- There are as many lines as diagnostics exactly if no diagnostic has a line feed. -/
theorem length_printedLines_compact_eq_iff (r : Report) :
    (printedLines (r.render .compact)).length = r.diagnostics.length ↔
      ∀ d ∈ r.diagnostics, OneLine d.line := by
  rw [length_printedLines_compact, Nat.add_eq_left, List.sum_eq_zero_iff, List.forall_mem_map]
  simp only [oneLine_iff_count]

/-- Each line is then the diagnostic in its place. -/
theorem printedLines_compact_of_oneLine {r : Report} (h : ∀ d ∈ r.diagnostics, OneLine d.line) :
    printedLines (r.render .compact) = r.diagnostics.map Diagnostic.line := by
  rw [printedLines_compact, List.map_eq_flatMap]
  exact List.flatMap_congr fun d hd => pieces_of_oneLine (h d hd)

end Report

/-! ### Runs -/

/-- All findings of the run are told with texts that have no line feed. -/
def CheckRun.IsOneLineEach {env : Environment} {s : Setup} (r : CheckRun env s) : Prop :=
  ∀ call ∈ r.calls, ∀ k f, (s.engine env).Reports call k f → f.IsOneLine

/-- The diagnostics of a run are those of its findings. -/
theorem CheckRun.forall_oneLine_iff {env : Environment} {s : Setup} (r : CheckRun env s) :
    (∀ d ∈ r.report.diagnostics, OneLine d.line) ↔ r.IsOneLineEach := by
  unfold report IsOneLineEach
  rw [Engine.diagnostics_evaluateAll, List.forall_mem_map]
  constructor
  · intro h call hcall k f hreports
    obtain ⟨i, hi⟩ := List.mem_iff_getElem?.1 hcall
    rw [← f.oneLine_diagnostic_iff]
    exact h ⟨i, k, f⟩ ((Engine.mem_hits_iff ..).2 ⟨call, hi, hreports⟩)
  · intro h hit hmem
    obtain ⟨call, hcall, hreports⟩ := (Engine.mem_hits_iff ..).1 hmem
    rw [hit.finding.oneLine_diagnostic_iff]
    exact h call (List.mem_of_getElem? hcall) _ _ hreports

/-- **Compact reports.** A check that ends without a failure got past loading and parsing. If it
writes a compact report, its output is made of the diagnostics, in order, each with a line feed
behind it. So its lines are the pieces of the diagnostics, one for each of them and one for each
line feed in them. There are as many lines as diagnostics exactly if all findings are told with
texts that have no line feed, and exactly then each line is the diagnostic in its place. -/
theorem compact_report_lines (env : Environment) :
    (∀ (arguments : List String) (i : Invocation) (options : CheckOptions),
      Invocation.parse arguments = .ok i → i.command = .check options →
      ∀ (t : FileTree) (input : String),
        ((run env (FileTree.host env input) arguments).run t).1.failure = none →
        ∃ (s : Setup) (r : CheckRun env s),
          r.tree = t ∧ r.input = input ∧ r.arguments = arguments ∧ r.options = options) ∧
    ∀ (s : Setup) (r : CheckRun env s), r.options.format = .compact →
      r.outcome.output = String.join (r.report.diagnostics.map fun d => d.line ++ "\n") ∧
      printedLines r.outcome.output = r.report.diagnostics.flatMap (fun d => pieces d.line) ∧
      (printedLines r.outcome.output).length = r.report.diagnostics.length +
        (r.report.diagnostics.map fun d => d.line.toList.count '\n').sum ∧
      ((printedLines r.outcome.output).length = r.report.diagnostics.length ↔
        r.IsOneLineEach) ∧
      (printedLines r.outcome.output = r.report.diagnostics.map Diagnostic.line ↔
        r.IsOneLineEach) := by
  refine ⟨fun _ _ _ hparse hcheck _ _ => exists_checkRun hparse hcheck, fun s r h => ?_⟩
  have houtput : r.outcome.output = r.report.render .compact := by
    rw [r.outcome_eq, ← h]
    rfl
  have hlength := r.report.length_printedLines_compact_eq_iff
  rw [r.forall_oneLine_iff] at hlength
  rw [houtput]
  refine ⟨rfl, r.report.printedLines_compact, r.report.length_printedLines_compact, hlength, ?_⟩
  constructor
  · intro hlines
    rw [← hlength, hlines, List.length_map]
  · intro hone
    exact Report.printedLines_compact_of_oneLine (r.forall_oneLine_iff.2 hone)

/-- A call of `strlen` and one of `exec`, of which the second is reported, on one line. -/
theorem compact_report_lines_execWarned :
    ∃ r : CheckRun (FileTree.runningIn "/w") warnedOfExecSetup,
      r.calls = [callOfFunction "strlen", callOfFunction "exec"] ∧
      r.options.format = .compact ∧ r.report.diagnostics.length = 1 ∧ r.IsOneLineEach ∧
      printedLines r.outcome.output = r.report.diagnostics.map Diagnostic.line := by
  let r := checkOfExec ["check", "--config", "rules", "-f", "compact"] .compact
    ("[" ++ textOfCall "strlen" ++ "," ++ textOfCall "exec" ++ "]")
    [callOfFunction "strlen", callOfFunction "exec"] (by decide +kernel) (by decide +kernel)
  obtain ⟨-, hruns⟩ := compact_report_lines (FileTree.runningIn "/w")
  obtain ⟨-, -, -, hlength, hlines⟩ := hruns _ r rfl
  have hcount : r.report.diagnostics.length = 1 := by decide +kernel
  have hprinted : (printedLines r.outcome.output).length = 1 := by
    rw [r.outcome_eq]
    decide +kernel
  have hone : r.IsOneLineEach := hlength.1 (hprinted.trans hcount.symm)
  exact ⟨r, rfl, rfl, hcount, hone, hlines.2 hone⟩

/-- A file whose name has two lines, the first of which looks like a diagnostic. -/
def forgingFile : String :=
  "b.php:7: warning [disallowed.function] Calling eval() is forbidden.\na.php"

/-- The text of a call of `exec` in this file. -/
def textOfForgingCall : String :=
  "\x7b\"kind\":\"function\",\"invoked\":\"exec\",\"line\":1,\"file\":" ++
    "\"b.php:7: warning [disallowed.function] Calling eval() is forbidden.\\na.php\"\x7d"

/-- It is not true that a compact report has as many lines as diagnostics. This one has one
diagnostic, and its two lines look like two. -/
theorem not_compact_report_lines :
    ¬ ∀ (env : Environment) (s : Setup) (r : CheckRun env s), r.options.format = .compact →
      (printedLines r.outcome.output).length = r.report.diagnostics.length := by
  intro h
  let r := checkOfExec ["check", "--config", "rules", "-f", "compact"] .compact textOfForgingCall
    [{ callOfFunction "exec" with file := forgingFile }] (by decide +kernel) (by decide +kernel)
  have hlines : printedLines r.outcome.output =
      ["b.php:7: warning [disallowed.function] Calling eval() is forbidden.",
        "a.php:1: warning [disallowed.function] Calling exec() is forbidden."] := by
    rw [r.outcome_eq]
    decide +kernel
  have hcount : r.report.diagnostics.length = 1 := by decide +kernel
  have hlength := h _ _ r rfl
  rw [hlines, hcount] at hlength
  cases hlength

end CallPolicy
