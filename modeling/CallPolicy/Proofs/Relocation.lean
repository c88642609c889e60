import CallPolicy.Configuration
import CallPolicy.Proofs.Loading
import CallPolicy.Proofs.Matching

namespace CallPolicy

open CallPolicy.Path

/-!
# Moving a project

The report of a project does not depend on where the project is: with relative globs and relative
files that stay inside the root, two roots give the same report.

* `CallSite.IsInside` — the file of the call is a file in the root.
* `Rule.judgeAt_relocated` — relocated rules judge a call alike.
* `Engine.visit_relocated` — so one visit does the same at both roots.
* `Engine.evaluate_relocated`, `Engine.evaluateAll_relocated` — and so does a whole run.
* `report_relocated` — from the text of the configuration to the report.
-/

/-- The file of the call is spelled relative to the root, and is a file in it. -/
structure CallSite.IsInside (call : CallSite) : Prop where
  stays : StaysInside call.file.toList
  ne_nil : (spelled call.file.toList).segments ≠ []

section

variable {root root' : ProjectRoot} {call : CallSite} (hcall : call.IsInside)

include hcall

/-! ### Rules -/

theorem anyCovers_relocated {globs globs' : List PathGlob}
    (h : List.Forall₂ (PathGlob.Relocated root root') globs globs') :
    anyCovers globs (root.resolve call.file).toString =
      anyCovers globs' (root'.resolve call.file).toString := by
  unfold anyCovers
  induction h with
  | nil => rw [List.any_nil, List.any_nil]
  | cons hg _ ih =>
    rw [List.any_cons, List.any_cons, ih, hg.covers _ hcall.stays hcall.ne_nil]

/-- Relocated rules judge a call alike. -/
theorem Rule.judgeAt_relocated {r r' : Rule} (h : Relocated root root' r r') :
    r.judgeAt root call = r'.judgeAt root' call := by
  cases h with
  | @mk allowIn allowExceptIn hallowIn hallowExceptIn =>
    have hin := anyCovers_relocated hcall hallowIn
    have hexcept := anyCovers_relocated hcall hallowExceptIn
    have hempty : r.allowExceptIn.isEmpty = allowExceptIn.isEmpty := by
      rw [Bool.eq_iff_iff, List.isEmpty_iff_length_eq_zero, List.isEmpty_iff_length_eq_zero,
        hallowExceptIn.length_eq]
    -- The steps look at the globs through these three tests only.
    simp only [judgeAt, judge, judgePlace, judgeAllowed, judgeArguments, hin, hexcept, hempty]

end

/-! ### Findings -/

/-- Two rules of two sets, about one symbol, that are the same but for relocated globs. -/
structure RuleMatch.Relocated (root root' : ProjectRoot) (m m' : RuleMatch) : Prop where
  index : m.index = m'.index
  rule : Rule.Relocated root root' m.rule m'.rule
  pattern : m.pattern = m'.pattern

/-- Two findings that are the same but for relocated globs. -/
structure Finding.Relocated (root root' : ProjectRoot) (f f' : Finding) : Prop where
  call : f.call = f'.call
  candidate : f.candidate = f'.candidate
  found : RuleMatch.Relocated root root' f.found f'.found

theorem Finding.diagnostic_relocated {root root' : ProjectRoot} {f f' : Finding}
    (h : Relocated root root' f f') : f.diagnostic = f'.diagnostic := by
  obtain ⟨call, candidate, ⟨index, rule, pattern⟩⟩ := f
  obtain ⟨call', candidate', ⟨index', rule', pattern'⟩⟩ := f'
  obtain ⟨hcall, hcandidate, ⟨hindex, hrule, hpattern⟩⟩ := h
  dsimp only at hcall hcandidate hindex hrule hpattern
  subst hcall hcandidate hindex hpattern
  cases hrule
  simp only [diagnostic, message, Rule.name]

theorem RuleSet.matchesFor_relocated {root root' : ProjectRoot} {s s' : RuleSet}
    (h : Relocated root root' s s') (kind : SymbolKind) (symbol : Symbol) :
    List.Forall₂ (RuleMatch.Relocated root root') (s.matchesFor kind symbol)
      (s'.matchesFor kind symbol) := by
  refine (forall₂_matchesFor (List.Forall₂.imp (fun r r' hrule => ⟨hrule, ?_⟩) h)).imp
    fun m m' hm => ⟨hm.1, hm.2.1, hm.2.2⟩
  -- Relocated rules are about the same symbols.
  have hkind : r.kind = r'.kind := by cases hrule; rfl
  have hpattern : r.matchingPattern? symbol = r'.matchingPattern? symbol := by cases hrule; rfl
  refine ⟨hkind, ?_⟩
  rw [← hpattern]
  cases r.matchingPattern? symbol with
  | none => exact .none
  | some pattern => exact .some rfl

namespace Engine

section

variable {e e' : Engine} (hrules : RuleSet.Relocated e.root e'.root e.rules e'.rules)
  {call : CallSite} (hcall : call.IsInside)

include hrules

theorem findingsUnder_relocated (call : CallSite) (candidate : Symbol) :
    List.Forall₂ (fun f f' : Finding => f.call = call ∧ Finding.Relocated e.root e'.root f f')
      (e.findingsUnder call candidate) (e'.findingsUnder call candidate) := by
  unfold findingsUnder
  rw [List.forall₂_map_left_iff, List.forall₂_map_right_iff]
  refine (RuleSet.matchesFor_relocated hrules call.kind candidate).imp fun m m' hm => ?_
  exact ⟨rfl, rfl, rfl, hm⟩

include hcall

omit hrules in
/-- One visit does the same at both roots. -/
theorem visit_relocated (p : Progress) {f f' : Finding} (hf : f.call = call)
    (h : Finding.Relocated e.root e'.root f f') : e.visit p f = e'.visit p f' := by
  have hjudge : f.found.rule.judgeAt e.root f.call = f'.found.rule.judgeAt e'.root f'.call := by
    rw [← h.call, hf]
    exact Rule.judgeAt_relocated hcall h.found.rule
  unfold visit
  rw [hjudge, h.found.index, Finding.diagnostic_relocated h]

/-- All visits of a call do the same at both roots. -/
theorem scan_relocated : e.scan call = e'.scan call := by
  have hcandidate : e.visitCandidate call = e'.visitCandidate call := by
    funext p candidate
    unfold visitCandidate
    -- The findings are related one by one, and the progress is the same after each.
    have hfindings := findingsUnder_relocated hrules call candidate
    generalize e.findingsUnder call candidate = findings at hfindings ⊢
    generalize e'.findingsUnder call candidate = findings' at hfindings ⊢
    induction hfindings generalizing p with
    | nil => rw [List.foldlM_nil, List.foldlM_nil]
    | cons hf _ ih =>
      rw [List.foldlM_cons, List.foldlM_cons, visit_relocated hcall p hf.1 hf.2]
      exact bind_congr fun q => ih q
  have hstart : Progress.start e.rules = Progress.start e'.rules := by
    unfold Progress.start
    rw [hrules.length_eq]
  rw [scan, scan, hcandidate, hstart]

theorem evaluate_relocated : e.evaluate call = e'.evaluate call := by
  unfold evaluate
  simp only [scan_relocated hrules hcall]

end

/-- Two engines with relocated rules give the same report. -/
theorem evaluateAll_relocated {e e' : Engine}
    (hrules : RuleSet.Relocated e.root e'.root e.rules e'.rules) {calls : List CallSite}
    (hcalls : ∀ call ∈ calls, call.IsInside) : e.evaluateAll calls = e'.evaluateAll calls := by
  have hdiagnostics : calls.flatMap e.evaluate = calls.flatMap e'.evaluate :=
    List.flatMap_congr fun call hcall => evaluate_relocated hrules (hcalls call hcall)
  rw [evaluateAll, evaluateAll, hdiagnostics]

end Engine

/-! ### Projects -/

/-- **Moving a project.** Let all globs of a configuration be relative and stay inside the root, and
let the files of all calls be relative paths of files in the root. At any two absolute roots, the
rules are loaded at both and give the same report, or fail to load with the same error in the same
place, but for its position in the anchored glob. -/
theorem report_relocated (workDir root root' text : String) (settings : Settings)
    (calls : List CallSite) (hroot : isAbsolute root.toList = true)
    (hroot' : isAbsolute root'.toList = true)
    (hglobs : ∀ d, Toml.parse? text.toList >>= RuleDocument.ofDatum? = some d → d.StaysInside)
    (hcalls : ∀ call ∈ calls, call.IsInside) :
    SameOutcome (fun e e' : LoadError => e.withoutPosition = e'.withoutPosition)
      (fun rules rules' : RuleSet =>
        (Engine.start workDir (some root) rules settings).evaluateAll calls =
          (Engine.start workDir (some root') rules' settings).evaluateAll calls)
      (loadRules (.locate workDir root) text) (loadRules (.locate workDir root') text) := by
  have hload := loadRules_relocated (ProjectRoot.isPlain_locate workDir hroot)
    (ProjectRoot.isPlain_locate workDir hroot') hglobs
  exact hload.imp fun rules rules' _ _ hrules => Engine.evaluateAll_relocated hrules hcalls

/-- A configuration that allows calls of `Foo::bar` in the directory `src`. -/
def allowedInSrc : String :=
  "[[disallowed-method-calls]]\nmethod = \"Foo::bar\"\nallow-in = [\"./src/*.php\"]\n"

/-- A call of `Foo::bar` in a file. -/
def callOfFooBarIn (file : String) : CallSite where
  invoked := ⟨.staticMethod, .inClass "Foo", "bar", "foo::bar"⟩
  declaring := ⟨.staticMethod, .inClass "Foo", "bar", "foo::bar"⟩
  alsoDeclaredIn := []
  caller := none
  file
  line := 1
  arguments := []

/-- A call in the directory `src`, and one in `lib`. -/
def callsInSrcAndLib : List CallSite :=
  [callOfFooBarIn "lib/../src/a.php", callOfFooBarIn "./lib//src/a.php"]

/-- A project may move to a directory whose name is a glob itself. The call in `src` is allowed
before and after, and that in `lib` is reported. -/
theorem report_relocated_brackets :
    ∃ rules rules' : RuleSet,
      loadRules (.locate "/" "/srv/[a-z]*") allowedInSrc = .ok rules ∧
      loadRules (.locate "/" "/") allowedInSrc = .ok rules' ∧
      (Engine.start "/" (some "/srv/[a-z]*") rules .initial).evaluateAll callsInSrcAndLib =
        (Engine.start "/" (some "/") rules' .initial).evaluateAll callsInSrcAndLib ∧
      ((Engine.start "/" (some "/") rules' .initial).evaluateAll callsInSrcAndLib).diagnostics.map
        (·.location) = [⟨"./lib//src/a.php", 1⟩] := by
  have hread : (Toml.parse? allowedInSrc.toList >>= RuleDocument.ofDatum?).map
      (fun d => (d.methods ++ d.functions).map fun e => e.allowIn ++ e.allowExceptIn) =
        some [["./src/*.php"]] := by
    decide +kernel
  have hglobs : ∀ d, Toml.parse? allowedInSrc.toList >>= RuleDocument.ofDatum? = some d →
      d.StaysInside := by
    intro d hd e he text htext
    rw [hd, Option.map_some, Option.some.injEq] at hread
    have hmem : e.allowIn ++ e.allowExceptIn ∈ [["./src/*.php"]] := hread ▸ List.mem_map_of_mem he
    rw [List.mem_singleton.1 hmem, List.mem_singleton] at htext
    subst htext
    exact ⟨rfl, by decide⟩
  have hcalls : ∀ call ∈ callsInSrcAndLib, call.IsInside :=
    List.forall_mem_cons.2 ⟨⟨⟨rfl, by decide⟩, by decide⟩,
      List.forall_mem_singleton.2 ⟨⟨rfl, by decide⟩, by decide⟩⟩
  have hlocations : (loadRules (.locate "/" "/") allowedInSrc).map (fun rules' =>
      ((Engine.start "/" (some "/") rules' .initial).evaluateAll callsInSrcAndLib).diagnostics.map
        (·.location)) = .ok [⟨"./lib//src/a.php", 1⟩] := by
    decide +kernel
  obtain ⟨rules', hload', hreported⟩ := exists_of_map_eq_ok hlocations
  rcases (report_relocated "/" "/srv/[a-z]*" "/" allowedInSrc .initial callsInSrcAndLib rfl rfl
    hglobs hcalls).ok_or_error with ⟨rules, after, hload, hafter, hsame⟩ | ⟨-, e, -, he, -⟩
  · obtain rfl : after = rules' := Except.ok.inj (hafter.symm.trans hload')
    exact ⟨rules, after, hload, hload', hsame, hreported.symm⟩
  · rw [hload'] at he
    cases he

end CallPolicy
