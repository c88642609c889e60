import CallPolicy.Engine.Finding
import CallPolicy.Report.Basic
import CallPolicy.Rule.Exemption
import CallPolicy.Settings

namespace CallPolicy

/-!
# The engine

The engine holds the rules, the project root and the settings.

* `Engine.scan` — the evaluation of one call, candidate by candidate and rule by rule.
* `Engine.evaluate` — the diagnostics of one call.
* `Engine.evaluateAll` — the report of a batch.

A rule reports a call at most once, under the first candidate that it is about. The table of the
rules that were met is as long as the rule set, so every rule has its place in it
(`Engine.scan_isSome`).
-/

structure Engine where
  root : ProjectRoot
  rules : RuleSet
  settings : Settings
  deriving DecidableEq

/-- How far the evaluation of a call has come. -/
structure Progress where
  /-- For each rule of the set, whether it was met under a candidate. -/
  reported : List Bool
  diagnostics : List Diagnostic
  deriving DecidableEq

/-- No rule was met yet. -/
def Progress.start (rules : RuleSet) : Progress :=
  ⟨List.replicate rules.rules.length false, []⟩

namespace Engine

/-- The rules about a call under one candidate. -/
def findingsUnder (e : Engine) (call : CallSite) (candidate : Symbol) : List Finding :=
  (e.rules.matchesFor call.kind candidate).map fun found => { call, candidate, found }

/-- The rules about a call, candidate by candidate. -/
def matchesOf (e : Engine) (call : CallSite) : List Finding :=
  call.candidates.flatMap (e.findingsUnder call)

/-- One more finding. Its rule counts as met before it is judged, so a rule that exempts the call
is not judged again under a later candidate. There is no answer for a rule beyond the table. -/
def visit (e : Engine) (p : Progress) (f : Finding) : Option Progress :=
  match p.reported[f.found.index]? with
  | none => none
  | some true => some p
  | some false =>
    let reported := p.reported.set f.found.index true
    if (f.found.rule.judgeAt e.root f.call).isExempt then some { p with reported }
    else some { reported, diagnostics := p.diagnostics ++ [f.diagnostic] }

/-- One more candidate. -/
def visitCandidate (e : Engine) (call : CallSite) (p : Progress) (candidate : Symbol) :
    Option Progress :=
  (e.findingsUnder call candidate).foldlM e.visit p

/-- The evaluation of a call. -/
def scan (e : Engine) (call : CallSite) : Option Progress :=
  call.candidates.foldlM (e.visitCandidate call) (.start e.rules)

/-! ### Every rule has its place in the table -/

theorem index_lt_of_mem_findingsUnder {e : Engine} {call : CallSite} {candidate : Symbol}
    {f : Finding} (h : f ∈ e.findingsUnder call candidate) :
    f.found.index < e.rules.rules.length := by
  simp only [findingsUnder, RuleSet.matchesFor, List.mem_map, List.mem_filterMap] at h
  obtain ⟨found, ⟨⟨rule, index⟩, hmem, hfound⟩, rfl⟩ := h
  have hlt : index < e.rules.rules.length := by simpa using List.snd_lt_of_mem_zipIdx hmem
  split at hfound
  · obtain ⟨pattern, -, rfl⟩ := Option.map_eq_some_iff.1 hfound
    exact hlt
  · simp at hfound

/-- A visit changes no more than the marks in the table. -/
theorem visit_of_lt (e : Engine) {p : Progress} {f : Finding}
    (h : f.found.index < p.reported.length) :
    ∃ q, e.visit p f = some q ∧ q.reported.length = p.reported.length := by
  unfold visit
  rw [List.getElem?_eq_getElem h]
  cases p.reported[f.found.index] with
  | true => exact ⟨p, rfl, rfl⟩
  | false => by_cases hexempt : (f.found.rule.judgeAt e.root f.call).isExempt <;> simp [hexempt]

theorem foldlM_visit_of_lt (e : Engine) {p : Progress} {findings : List Finding}
    (h : ∀ f ∈ findings, f.found.index < p.reported.length) :
    ∃ q, findings.foldlM e.visit p = some q ∧ q.reported.length = p.reported.length := by
  induction findings generalizing p with
  | nil => exact ⟨p, rfl, rfl⟩
  | cons f rest ih =>
    obtain ⟨q, hq, hlen⟩ := e.visit_of_lt (h f (by simp))
    obtain ⟨r, hr, hlen'⟩ := ih (p := q) fun g hg => hlen ▸ h g (by simp [hg])
    exact ⟨r, by simp [List.foldlM_cons, hq, hr], by omega⟩

/-- Going through the candidates is going through all findings. -/
theorem foldlM_visitCandidate (e : Engine) (call : CallSite) (candidates : List Symbol)
    (p : Progress) :
    candidates.foldlM (e.visitCandidate call) p =
      (candidates.flatMap (e.findingsUnder call)).foldlM e.visit p := by
  induction candidates generalizing p with
  | nil => rfl
  | cons candidate rest ih =>
    rw [List.flatMap_cons, List.foldlM_append, List.foldlM_cons]
    exact bind_congr fun q => ih q

theorem scan_eq_foldlM (e : Engine) (call : CallSite) :
    e.scan call = (e.matchesOf call).foldlM e.visit (.start e.rules) :=
  e.foldlM_visitCandidate call _ _

theorem index_lt_of_mem_matchesOf {e : Engine} {call : CallSite} {f : Finding}
    (h : f ∈ e.matchesOf call) : f.found.index < e.rules.rules.length := by
  obtain ⟨candidate, -, hmem⟩ := List.mem_flatMap.1 h
  exact index_lt_of_mem_findingsUnder hmem

/-- No evaluation looks beyond the table. -/
theorem scan_isSome (e : Engine) (call : CallSite) : (e.scan call).isSome := by
  have hlt : ∀ f ∈ e.matchesOf call, f.found.index < (Progress.start e.rules).reported.length := by
    intro f hf
    simpa [Progress.start] using index_lt_of_mem_matchesOf hf
  obtain ⟨q, hq, -⟩ := e.foldlM_visit_of_lt hlt
  rw [scan_eq_foldlM, hq]
  rfl

/-! ### Reports -/

def evaluate (e : Engine) (call : CallSite) : List Diagnostic :=
  ((e.scan call).get (e.scan_isSome call)).diagnostics

/-- The report of a batch, in the order of the calls. -/
def evaluateAll (e : Engine) (calls : List CallSite) : Report where
  diagnostics := calls.flatMap e.evaluate
  callSitesChecked := UInt64.ofNat calls.length

end Engine

end CallPolicy
