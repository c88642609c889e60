import CallPolicy.Proofs.Evaluation
import CallPolicy.Proofs.LetterCase

namespace CallPolicy

open Text

/-!
# Reports in another case

The case of the ASCII letters in patterns and names shows in the messages of a report, and nowhere
else.

* `Rule.Recased`, `CallSite.Recased` — rules and calls that differ in the case of ASCII letters.
* `Rule.matchingPattern?_recased`, `Rule.judgeAt_recased` — such rules are about the same symbols
  and judge calls alike.
* `Engine.reports_recased` — so the reports of a call come from the same rules and candidates.
* `Engine.evaluateAll_recased` — and so do those of a batch.
-/

/-- Patterns whose texts differ at most in the case of ASCII letters. -/
def SymbolPattern.Recased (p p' : SymbolPattern) : Prop :=
  ∃ text text' : String, Text.Recased text.toList text'.toList ∧
    compile text = .ok p ∧ compile text' = .ok p'

/-- Symbols of one kind whose names differ at most in the case of ASCII letters. -/
def Symbol.Recased (s s' : Symbol) : Prop :=
  ∃ (name name' : String) (kind : SymbolKind), Text.Recased name.toList name'.toList ∧
    parse name kind = .ok s ∧ parse name' kind = .ok s'

/-- A rule that differs at most in the case of ASCII letters in its patterns. -/
inductive Rule.Recased : Rule → Rule → Prop
  | mk (r : Rule) {calls excludes allowInCallers allowExceptInCallers : List SymbolPattern}
    (hcalls : List.Forall₂ SymbolPattern.Recased r.calls calls)
    (hexcludes : List.Forall₂ SymbolPattern.Recased r.excludes excludes)
    (hallowIn : List.Forall₂ SymbolPattern.Recased r.allowInCallers allowInCallers)
    (hallowExceptIn : List.Forall₂ SymbolPattern.Recased r.allowExceptInCallers
      allowExceptInCallers) :
    Rule.Recased r { r with calls, excludes, allowInCallers, allowExceptInCallers }

/-- A call that differs at most in the case of ASCII letters in its names. -/
inductive CallSite.Recased : CallSite → CallSite → Prop
  | mk (call : CallSite) {invoked declaring : Symbol} {alsoDeclaredIn : List Symbol}
    {caller : Option Symbol} (hinvoked : Symbol.Recased call.invoked invoked)
    (hdeclaring : Symbol.Recased call.declaring declaring)
    (halso : List.Forall₂ Symbol.Recased call.alsoDeclaredIn alsoDeclaredIn)
    (hcaller : Option.Rel Symbol.Recased call.caller caller) :
    CallSite.Recased call { call with invoked, declaring, alsoDeclaredIn, caller }

/-! ### Patterns and symbols -/

/-- A pattern is accepted in any case of its letters, or refused for the same reason. -/
theorem SymbolPattern.compile_sameOutcome {pattern pattern' : String}
    (h : Text.Recased pattern.toList pattern'.toList) :
    SameOutcome (fun e e' : PatternError => e.withoutText = e'.withoutText) SymbolPattern.Recased
      (compile pattern) (compile pattern') := by
  refine (compile_recased h).imp fun p p' hp hp' _ => ?_
  exact ⟨pattern, pattern', h, hp, hp'⟩

/-- A name is accepted in any case of its letters, or refused for the same reason. -/
theorem Symbol.parse_sameOutcome {name name' : String} (h : Text.Recased name.toList name'.toList)
    (kind : SymbolKind) :
    SameOutcome (fun e e' : SymbolError => e.withoutName = e'.withoutName) Symbol.Recased
      (parse name kind) (parse name' kind) := by
  refine (parse_recased h kind).imp fun s s' hs hs' _ => ?_
  exact ⟨name, name', kind, h, hs, hs'⟩

theorem SymbolPattern.Recased.alike {p p' : SymbolPattern} (h : p.Recased p') : p.Alike p' := by
  obtain ⟨text, text', htext, hcompile, hcompile'⟩ := h
  have hsame := compile_recased htext
  rw [hcompile, hcompile'] at hsame
  cases hsame with
  | ok halike => exact halike

theorem Symbol.Recased.alike {s s' : Symbol} (h : s.Recased s') : s.Alike s' := by
  obtain ⟨name, name', kind, hname, hparse, hparse'⟩ := h
  have hsame := parse_recased hname kind
  rw [hparse, hparse'] at hsame
  cases hsame with
  | ok halike => exact halike

section

variable {s s' : Symbol} (hs : s.Recased s') {patterns patterns' : List SymbolPattern}
  (hpatterns : List.Forall₂ SymbolPattern.Recased patterns patterns')

include hs hpatterns

theorem any_covers_recased : patterns.any (·.covers s) = patterns'.any (·.covers s') := by
  induction hpatterns with
  | nil => rfl
  | cons hp _ ih =>
    rw [List.any_cons, List.any_cons, ih, SymbolPattern.covers_alike hp.alike hs.alike]

/-- The first pattern that matches has the same place. -/
theorem find?_covers_recased :
    Option.Rel SymbolPattern.Recased (patterns.find? (·.covers s))
      (patterns'.find? (·.covers s')) := by
  induction hpatterns with
  | nil => exact .none
  | @cons p p' _ _ hp _ ih =>
    rw [List.find?_cons, List.find?_cons, SymbolPattern.covers_alike hp.alike hs.alike]
    cases p'.covers s' with
    | true => exact .some hp
    | false => exact ih

end

/-! ### Rules -/

namespace Rule

variable {r r' : Rule} (hr : r.Recased r')

include hr

theorem kind_recased : r.kind = r'.kind := by
  cases hr
  rfl

theorem wording_recased : r.severity = r'.severity ∧ r.errorIdentifier = r'.errorIdentifier ∧
    r.errorTip = r'.errorTip := by
  cases hr
  exact ⟨rfl, rfl, rfl⟩

/-- Recased rules are about the same symbols, by patterns in the same places. -/
theorem matchingPattern?_recased {s s' : Symbol} (hs : s.Recased s') :
    Option.Rel SymbolPattern.Recased (r.matchingPattern? s) (r'.matchingPattern? s') := by
  cases hr with
  | mk hcalls hexcludes hallowIn hallowExceptIn =>
    unfold matchingPattern? isExcluded
    -- The same symbols are excluded; of the others, the first pattern that matches counts.
    rw [any_covers_recased hs hexcludes]
    split
    · exact .none
    · exact find?_covers_recased hs hcalls

omit hr in
theorem isCalledFrom_recased {call call' : CallSite} (hcall : call.Recased call')
    {patterns patterns' : List SymbolPattern}
    (hpatterns : List.Forall₂ SymbolPattern.Recased patterns patterns') :
    call.isCalledFrom patterns = call'.isCalledFrom patterns' := by
  cases hcall with
  | mk hinvoked hdeclaring halso hcaller =>
    unfold CallSite.isCalledFrom
    dsimp only
    generalize call.caller = before at hcaller ⊢
    cases hcaller with
    | none => rfl
    | some hs => exact any_covers_recased hs hpatterns

/-- Recased rules judge recased calls alike. -/
theorem judgeAt_recased (root : ProjectRoot) {call call' : CallSite} (hcall : call.Recased call') :
    r.judgeAt root call = r'.judgeAt root call' := by
  cases hr with
  | @mk _ _ allowInCallers allowExceptInCallers _ _ hallowIn hallowExceptIn =>
    have hin := isCalledFrom_recased hcall hallowIn
    have hexcept := isCalledFrom_recased hcall hallowExceptIn
    have hempty : r.allowExceptInCallers.isEmpty = allowExceptInCallers.isEmpty := by
      rw [Bool.eq_iff_iff, List.isEmpty_iff_length_eq_zero, List.isEmpty_iff_length_eq_zero,
        hallowExceptIn.length_eq]
    have hfile : call.file = call'.file := by cases hcall; rfl
    have harguments : call.arguments = call'.arguments := by cases hcall; rfl
    -- The steps look at the callers through these three tests only.
    simp only [judgeAt, judge, judgePlace, judgeAllowed, judgeArguments, hin, hexcept, hempty,
      hfile, harguments]

end Rule

/-! ### The reports of a call -/

/-- The findings come from the same place in two rule sets, and differ at most in the case of ASCII
letters. -/
structure Finding.Recased (f f' : Finding) : Prop where
  call : f.call.Recased f'.call
  candidate : f.candidate.Recased f'.candidate
  index : f.found.index = f'.found.index
  rule : f.found.rule.Recased f'.found.rule

namespace CallSite

variable {call call' : CallSite} (h : call.Recased call')

include h

theorem invoked_recased : call.invoked.Recased call'.invoked := by
  cases h with
  | mk hinvoked => exact hinvoked

theorem kind_recased : call.kind = call'.kind :=
  (invoked_recased h).alike.kind

theorem location_recased : call.file = call'.file ∧ call.line = call'.line := by
  cases h
  exact ⟨rfl, rfl⟩

/-- The same candidates are kept, as recased names have one key. -/
theorem candidates_recased :
    List.Forall₂ Symbol.Recased call.candidates call'.candidates := by
  cases h with
  | mk hinvoked hdeclaring halso =>
    exact forall₂_distinctFrom (fun _ _ hs => hs.alike.key) (.cons hdeclaring halso) []

end CallSite

/-- The message of the diagnostic says that the code uses another name. -/
def Finding.MentionsAlias (f : Finding) : Prop :=
  ("Calling " ++ f.candidate.displayCall ++ " (as ").toList <+: f.diagnostic.message.toList

/-- The message says so exactly if the two names have different keys. -/
theorem Finding.mentionsAlias_iff (f : Finding) :
    f.MentionsAlias ↔ f.call.invoked.key ≠ f.candidate.key := by
  unfold MentionsAlias diagnostic message aliasNote? Symbol.same
  by_cases hkey : f.call.invoked.key = f.candidate.key
  · -- Behind the candidate stands ` is forbidden`.
    simp [hkey, toString, String.toList_append]
  · simp [hkey, toString, String.toList_append]

theorem Finding.mentionsAlias_recased {f f' : Finding} (h : f.Recased f') :
    f.MentionsAlias ↔ f'.MentionsAlias := by
  rw [mentionsAlias_iff, mentionsAlias_iff, (CallSite.invoked_recased h.call).alike.key,
    h.candidate.alike.key]

namespace Engine

section

variable {e e' : Engine} (hroot : e.root = e'.root)
  (hrules : List.Forall₂ Rule.Recased e.rules.rules e'.rules.rules)
  {call call' : CallSite} (hcall : call.Recased call')

include hrules hcall

theorem findingsUnder_recased {s s' : Symbol} (hs : s.Recased s') :
    List.Forall₂ Finding.Recased (e.findingsUnder call s) (e'.findingsUnder call' s') := by
  unfold findingsUnder
  rw [List.forall₂_map_left_iff, List.forall₂_map_right_iff, CallSite.kind_recased hcall]
  have hmatches : List.Forall₂ (fun m m' : RuleMatch => m.index = m'.index ∧
      m.rule.Recased m'.rule ∧ m.pattern.Recased m'.pattern)
      (e.rules.matchesFor call'.kind s) (e'.rules.matchesFor call'.kind s') :=
    RuleSet.forall₂_matchesFor (hrules.imp fun r r' hr =>
      ⟨hr, Rule.kind_recased hr, Rule.matchingPattern?_recased hr hs⟩)
  exact hmatches.imp fun m m' hm => ⟨hcall, hs, hm.1, hm.2.1⟩

include hroot

/-- The reports of a recased call come from the same candidates and rules. -/
theorem reports_recased :
    List.Forall₂ (fun p p' : Nat × Finding => p.1 = p'.1 ∧ p.2.Recased p'.2)
      (e.reports call) (e'.reports call') := by
  refine forall₂_reports (CallSite.candidates_recased hcall)
    (fun _ _ hs => findingsUnder_recased hrules hcall hs) (fun _ _ hf => hf.index) fun f f' hf => ?_
  unfold forbids
  rw [hroot, Rule.judgeAt_recased hf.rule e'.root hf.call]

end

/-! ### The report of a batch -/

/-- A report of a batch: the positions of the call and of the candidate, and the finding. -/
structure Hit where
  call : Nat
  candidate : Nat
  finding : Finding

/-- The reports of a batch, call by call. -/
def hits (e : Engine) (calls : List CallSite) : List Hit :=
  calls.zipIdx.flatMap fun p => (e.reports p.1).map fun q => ⟨p.2, q.1, q.2⟩

theorem diagnostics_evaluateAll (e : Engine) (calls : List CallSite) :
    (e.evaluateAll calls).diagnostics = (e.hits calls).map (·.finding.diagnostic) := by
  have hevaluate : ∀ call, e.evaluate call = (e.reports call).map (·.2.diagnostic) :=
    fun call => (e.yields_reports call).diagnostics
  have hcalls : calls.flatMap e.evaluate = calls.zipIdx.flatMap fun p => e.evaluate p.1 := by
    conv_lhs => rw [← List.zipIdx_map_fst 0 calls, List.flatMap_map]
  rw [evaluateAll, hcalls, hits, List.map_flatMap]
  simp only [hevaluate, List.map_map, Function.comp_def]

theorem mem_hits_iff (e : Engine) (calls : List CallSite) (h : Hit) :
    h ∈ e.hits calls ↔
      ∃ call, calls[h.call]? = some call ∧ e.Reports call h.candidate h.finding := by
  unfold hits
  rw [List.mem_flatMap]
  constructor
  · rintro ⟨⟨call, i⟩, hcall, hmem⟩
    obtain ⟨⟨k, f⟩, hf, rfl⟩ := List.mem_map.1 hmem
    exact ⟨call, List.mk_mem_zipIdx_iff_getElem?.1 hcall, (e.mem_reports_iff call k f).1 hf⟩
  · rintro ⟨call, hcall, hreports⟩
    exact ⟨(call, h.call), List.mk_mem_zipIdx_iff_getElem?.2 hcall,
      List.mem_map.2 ⟨(h.candidate, h.finding), (e.mem_reports_iff ..).2 hreports, rfl⟩⟩

/-- Two reports that say the same of calls in the same place, but for the spelling of names. -/
structure Hit.Agrees (h h' : Hit) : Prop where
  call : h.call = h'.call
  candidate : h.candidate = h'.candidate
  rule : h.finding.found.index = h'.finding.found.index
  severity : h.finding.diagnostic.severity = h'.finding.diagnostic.severity
  location : h.finding.diagnostic.location = h'.finding.diagnostic.location
  identifier : h.finding.diagnostic.identifier = h'.finding.diagnostic.identifier
  tip : h.finding.diagnostic.tip = h'.finding.diagnostic.tip
  note : h.finding.MentionsAlias ↔ h'.finding.MentionsAlias

theorem Hit.agrees_of_recased {i k : Nat} {f f' : Finding} (hf : f.Recased f') :
    Agrees ⟨i, k, f⟩ ⟨i, k, f'⟩ := by
  obtain ⟨hseverity, hidentifier, htip⟩ := Rule.wording_recased hf.rule
  obtain ⟨hfile, hline⟩ := CallSite.location_recased hf.call
  refine ⟨rfl, rfl, hf.index, hseverity, ?_, ?_, htip, Finding.mentionsAlias_recased hf⟩
  · show (⟨f.call.file, f.call.line⟩ : Location) = ⟨f'.call.file, f'.call.line⟩
    rw [hfile, hline]
  · show f.found.rule.errorIdentifier.getD f.call.kind.identifier =
      f'.found.rule.errorIdentifier.getD f'.call.kind.identifier
    rw [hidentifier, CallSite.kind_recased hf.call]

theorem hits_recased {e e' : Engine} (hroot : e.root = e'.root)
    (hrules : List.Forall₂ Rule.Recased e.rules.rules e'.rules.rules) {calls calls' : List CallSite}
    (hcalls : List.Forall₂ CallSite.Recased calls calls') :
    List.Forall₂ Hit.Agrees (e.hits calls) (e'.hits calls') := by
  unfold hits
  refine List.rel_flatMap (forall₂_zipIdx hcalls 0) ?_
  rintro ⟨call, i⟩ ⟨call', _⟩ ⟨hcall, rfl⟩
  rw [List.forall₂_map_left_iff, List.forall₂_map_right_iff]
  refine (reports_recased hroot hrules hcall).imp ?_
  rintro ⟨k, f⟩ ⟨_, f'⟩ ⟨rfl, hf⟩
  exact Hit.agrees_of_recased hf

/-- **The case of letters.** Change the case of ASCII letters in the patterns of a configuration and
in the names of calls. Each pattern and each name is accepted if it was before, and refused for the
same reason if not. The report of a batch then has as many diagnostics. Each comes from the same
call, the same candidate and the same rule as before, with the same severity, location, identifier
and tip, and its message has an alias note exactly if it had one. -/
theorem evaluateAll_recased {e e' : Engine} (hroot : e.root = e'.root)
    (hrules : List.Forall₂ Rule.Recased e.rules.rules e'.rules.rules) {calls calls' : List CallSite}
    (hcalls : List.Forall₂ CallSite.Recased calls calls') :
    (∀ pattern pattern' : String, Recased pattern.toList pattern'.toList →
      SameOutcome (fun e e' : PatternError => e.withoutText = e'.withoutText) SymbolPattern.Recased
        (SymbolPattern.compile pattern) (SymbolPattern.compile pattern')) ∧
    (∀ (name name' : String) (kind : SymbolKind), Recased name.toList name'.toList →
      SameOutcome (fun e e' : SymbolError => e.withoutName = e'.withoutName) Symbol.Recased
        (Symbol.parse name kind) (Symbol.parse name' kind)) ∧
    ∃ hits hits' : List Hit,
      (e.evaluateAll calls).diagnostics = hits.map (·.finding.diagnostic) ∧
      (e'.evaluateAll calls').diagnostics = hits'.map (·.finding.diagnostic) ∧
      (∀ h, h ∈ hits ↔
        ∃ call, calls[h.call]? = some call ∧ e.Reports call h.candidate h.finding) ∧
      (∀ h, h ∈ hits' ↔
        ∃ call, calls'[h.call]? = some call ∧ e'.Reports call h.candidate h.finding) ∧
      List.Forall₂ Hit.Agrees hits hits' ∧
      (e.evaluateAll calls).callSitesChecked = (e'.evaluateAll calls').callSitesChecked := by
  refine ⟨fun _ _ h => SymbolPattern.compile_sameOutcome h,
    fun _ _ kind h => Symbol.parse_sameOutcome h kind, e.hits calls, e'.hits calls',
    e.diagnostics_evaluateAll calls, e'.diagnostics_evaluateAll calls', e.mem_hits_iff calls,
    e'.mem_hits_iff calls', hits_recased hroot hrules hcalls, ?_⟩
  show UInt64.ofNat calls.length = UInt64.ofNat calls'.length
  rw [hcalls.length_eq]

/-- An engine with one rule, about calls that a pattern matches. -/
def forbidding (pattern : SymbolPattern) : Engine where
  root := .locate "/" "/"
  rules := ⟨[{ Rule.blank .method with calls := [pattern] }]⟩
  settings := .initial

/-- A call of a method. -/
def callOf (method : Symbol) : CallSite where
  invoked := method
  declaring := method
  alsoDeclaredIn := []
  caller := none
  file := "a.php"
  line := 1
  arguments := []

/-- The sigma at the end of a class is reported in any case of the letters around it. -/
theorem evaluateAll_recased_sigma :
    ∃ p p' s s', SymbolPattern.compile "xΣ::b*" = .ok p ∧ SymbolPattern.compile "XΣ::B*" = .ok p' ∧
      Symbol.parse "XΣ::bar" .staticMethod = .ok s ∧ Symbol.parse "xΣ::BAR" .staticMethod = .ok s' ∧
      ∃ hits hits' : List Hit,
        ((forbidding p).evaluateAll [callOf s]).diagnostics = hits.map (·.finding.diagnostic) ∧
        ((forbidding p').evaluateAll [callOf s']).diagnostics = hits'.map (·.finding.diagnostic) ∧
        hits.length = 1 ∧ List.Forall₂ Hit.Agrees hits hits' := by
  -- In the scope the sigma ends a word, in the key it does not.
  let p : SymbolPattern := ⟨"xΣ::b*", .members (.inClass "xς") "b"⟩
  let p' : SymbolPattern := ⟨"XΣ::B*", .members (.inClass "xς") "b"⟩
  let s : Symbol := ⟨.staticMethod, .inClass "XΣ", "bar", "xσ::bar"⟩
  let s' : Symbol := ⟨.staticMethod, .inClass "xΣ", "BAR", "xσ::bar"⟩
  have hp : SymbolPattern.compile "xΣ::b*" = .ok p := by decide +kernel
  have hp' : SymbolPattern.compile "XΣ::B*" = .ok p' := by decide +kernel
  have hs : Symbol.parse "XΣ::bar" .staticMethod = .ok s := by decide +kernel
  have hs' : Symbol.parse "xΣ::BAR" .staticMethod = .ok s' := by decide +kernel
  have hpattern : p.Recased p' := ⟨_, _, by decide, hp, hp'⟩
  have hsymbol : s.Recased s' := ⟨_, _, _, by decide, hs, hs'⟩
  obtain ⟨-, -, hits, hits', hdiagnostics, hdiagnostics', -, -, hagrees, -⟩ :=
    @evaluateAll_recased (forbidding p) (forbidding p') rfl
      (.cons (Rule.Recased.mk _ (.cons hpattern .nil) .nil .nil .nil) .nil) [callOf s] [callOf s']
      (.cons (CallSite.Recased.mk (callOf s) hsymbol hsymbol .nil .none) .nil)
  refine ⟨p, p', s, s', hp, hp', hs, hs', hits, hits', hdiagnostics, hdiagnostics', ?_, hagrees⟩
  have hlength := congrArg List.length hdiagnostics
  rw [List.length_map] at hlength
  rw [← hlength]
  decide +kernel

end Engine

end CallPolicy
