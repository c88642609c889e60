import CallPolicy.Proofs.Evaluation
import CallPolicy.Proofs.UnknownArguments
import Mathlib.Data.List.Sort

namespace CallPolicy

/-!
# Rules with one more clause

What becomes of the reports of a call when one rule of the set gets one more clause.

* `Rule.IsLoosenedBy` — the clause can only take reports away: an exclusion, or an allowed file or
  caller where the rule asks nothing of the arguments.
* `Rule.isAbout_of_isAbout_exclude`, `Rule.isAbout_extend_call` — an exclusion leaves a rule about
  fewer symbols, a call pattern makes it about more.
* `Rule.isExempt_extend_allowIn`, `Rule.isExempt_extend_allowInCaller` — what was exempt stays so in
  a rule that allows one more place.
* `Engine.extendRule` — the engine whose rule at one position has one more clause.
* `Engine.filter_reports_extendRule` — the other rules report what they did, in the same order.
* `Engine.evaluate_extendRule` — all of it for the diagnostics of a call.
-/

/-- The clause is a call pattern. -/
def Clause.isCall : Clause → Bool
  | .call _ => true
  | _ => false

namespace Rule

/-- The clause excludes symbols, or allows a file or a caller and the rule asks nothing of the
arguments there. -/
def IsLoosenedBy (r : Rule) : Clause → Prop
  | .exclude _ => True
  | .allowIn _ | .allowInCaller _ =>
    r.paramsInAllowed.isEmpty = true ∧ r.exceptParamsInAllowed.isEmpty = true
  | _ => False

/-! ### What the rule is about -/

theorem isAbout_of_isAbout_exclude {r : Rule} {p : SymbolPattern} {s : Symbol}
    (h : (r.extend (.exclude p)).IsAbout s) : r.IsAbout s := by
  obtain ⟨hcalls, hexcludes⟩ := h
  refine ⟨hcalls, fun q hq => hexcludes q ?_⟩
  show q ∈ r.excludes ++ [p]
  exact List.mem_append_left _ hq

theorem isAbout_extend_call {r : Rule} {s : Symbol} (h : r.IsAbout s) (p : SymbolPattern) :
    (r.extend (.call p)).IsAbout s := by
  obtain ⟨⟨q, hq, hcovers⟩, hexcludes⟩ := h
  refine ⟨⟨q, ?_, hcovers⟩, hexcludes⟩
  show q ∈ r.calls ++ [p]
  exact List.mem_append_left _ hq

/-! ### What the rule allows -/

/-- The decision in a place that is not allowed, where no value of `exceptParams` was passed. -/
def judgeElsewhere (r : Rule) (call : CallSite) (file : String) : Exemption :=
  if !r.allowExceptIn.isEmpty then
    if anyCovers r.allowExceptIn file then .disallowed .disallowedPath
    else .exempt .outsideDisallowedPaths
  else if !r.allowExceptInCallers.isEmpty then
    if call.isCalledFrom r.allowExceptInCallers then .disallowed .disallowedCaller
    else .exempt .outsideDisallowedCallers
  else r.judgeArguments call.arguments

theorem judgePlace_eq (r : Rule) (call : CallSite) (file : String) :
    r.judgePlace call file =
      if anyCovers r.allowIn file then r.judgeAllowed call.arguments .allowedPath
      else if call.isCalledFrom r.allowInCallers then r.judgeAllowed call.arguments .allowedCaller
      else r.judgeElsewhere call file :=
  rfl

theorem anyCovers_append (globs more : List PathGlob) (file : String) :
    anyCovers (globs ++ more) file = (anyCovers globs file || anyCovers more file) := by
  unfold anyCovers
  exact List.any_append

theorem isCalledFrom_append (call : CallSite) (patterns more : List SymbolPattern) :
    call.isCalledFrom (patterns ++ more) =
      (call.isCalledFrom patterns || call.isCalledFrom more) := by
  unfold CallSite.isCalledFrom
  cases call.caller with
  | none => rfl
  | some caller => simp

section

variable {r : Rule} (hrequired : r.paramsInAllowed.isEmpty = true)
  (hforbidden : r.exceptParamsInAllowed.isEmpty = true) {call : CallSite} {file : String}

include hrequired hforbidden

/-- A rule that asks nothing of the arguments there allows every call in an allowed place. -/
theorem judgeAllowed_of_isEmpty (arguments : List Argument) (reason : ExemptReason) :
    r.judgeAllowed arguments reason = .exempt reason := by
  rw [judgeAllowed_eq_exempt_iff]
  exact ⟨rfl, Conditions.search_of_isEmpty hforbidden arguments,
    Conditions.allHold_of_isEmpty hrequired arguments⟩

theorem isExempt_judgePlace_iff :
    (r.judgePlace call file).isExempt = true ↔
      anyCovers r.allowIn file = true ∨ call.isCalledFrom r.allowInCallers = true ∨
        (r.judgeElsewhere call file).isExempt = true := by
  rw [judgePlace_eq, judgeAllowed_of_isEmpty hrequired hforbidden,
    judgeAllowed_of_isEmpty hrequired hforbidden]
  by_cases hfile : anyCovers r.allowIn file = true
  · simp [hfile, Exemption.isExempt]
  · by_cases hcalled : call.isCalledFrom r.allowInCallers = true
    · simp [hfile, hcalled, Exemption.isExempt]
    · simp [hfile, hcalled]

/-- A call is exempt if no value of `exceptParams` was passed and its place is allowed, or else the
rest of the rule exempts it. -/
theorem isExempt_judge_iff :
    (r.judge call file).isExempt = true ↔
      (∀ position, r.exceptParams.search call.arguments ≠ .hit position) ∧
        (anyCovers r.allowIn file = true ∨ call.isCalledFrom r.allowInCallers = true ∨
          (r.judgeElsewhere call file).isExempt = true) := by
  rw [← isExempt_judgePlace_iff hrequired hforbidden]
  constructor
  · intro h
    have hno : ∀ position, r.exceptParams.search call.arguments ≠ .hit position := by
      intro position hhit
      rw [judge_of_hit call hhit] at h
      cases h
    rw [judge_eq_of_no_hit call hno] at h
    exact ⟨hno, h⟩
  · rintro ⟨hno, h⟩
    rw [judge_eq_of_no_hit call hno]
    exact h

/-- With one more allowed file, an exempt call stays exempt. -/
theorem isExempt_extend_allowIn (h : (r.judge call file).isExempt = true) (g : PathGlob) :
    ((r.extend (.allowIn g)).judge call file).isExempt = true := by
  rw [isExempt_judge_iff hrequired hforbidden] at h
  apply (isExempt_judge_iff (r := r.extend (.allowIn g)) hrequired hforbidden).2
  -- The other two ways to an exemption do not look at the allowed files.
  refine h.imp_right (Or.imp_left fun hfile => ?_)
  show anyCovers (r.allowIn ++ [g]) file = true
  rw [anyCovers_append, hfile, Bool.true_or]

/-- With one more allowed caller, an exempt call stays exempt. -/
theorem isExempt_extend_allowInCaller (h : (r.judge call file).isExempt = true)
    (p : SymbolPattern) : ((r.extend (.allowInCaller p)).judge call file).isExempt = true := by
  rw [isExempt_judge_iff hrequired hforbidden] at h
  apply (isExempt_judge_iff (r := r.extend (.allowInCaller p)) hrequired hforbidden).2
  refine h.imp_right (Or.imp_right (Or.imp_left fun hcalled => ?_))
  show call.isCalledFrom (r.allowInCallers ++ [p]) = true
  rw [isCalledFrom_append, hcalled, Bool.true_or]

end

end Rule

namespace Engine

/-- The engine whose rule at the position `i` has one more clause. -/
def extendRule (e : Engine) (i : Nat) (c : Clause) : Engine :=
  { e with rules := ⟨e.rules.rules.modify i (·.extend c)⟩ }

section

variable {e : Engine} {i : Nat} (call : CallSite) (c : Clause)

/-! ### The other rules -/

theorem reports_extendRule_iff {k : Nat} {f : Finding} (hne : f.found.index ≠ i) :
    (e.extendRule i c).Reports call k f ↔ e.Reports call k f := by
  have hrule : (e.extendRule i c).rules.rules[f.found.index]? = e.rules.rules[f.found.index]? :=
    List.getElem?_modify_ne _ _ hne.symm
  constructor
  · intro h
    exact ⟨h.ofCall, h.candidate, hrule ▸ h.rule, h.applies, h.about, h.first, h.pattern,
      h.forbidden⟩
  · intro h
    exact ⟨h.ofCall, h.candidate, hrule.trans h.rule, h.applies, h.about, h.first, h.pattern,
      h.forbidden⟩

instance : Std.Irrefl Precedes where
  irrefl p h := not_precedes_of_precedes p p h h

instance : Std.Antisymm Precedes where
  antisymm p q h h' := absurd h' (not_precedes_of_precedes p q h)

/-- The other rules report the call as before, in the same order. -/
theorem filter_reports_extendRule :
    ((e.extendRule i c).reports call).filter (fun p => p.2.found.index != i) =
      (e.reports call).filter fun p => p.2.found.index != i := by
  -- Reports are in strict order, so they are told by which there are.
  apply List.Pairwise.eq_of_mem_iff (r := Precedes)
  · exact ((e.extendRule i c).pairwise_reports call).filter _
  · exact (e.pairwise_reports call).filter _
  · rintro ⟨k, f⟩
    rw [List.mem_filter, List.mem_filter, mem_reports_iff, mem_reports_iff]
    refine and_congr_left fun hne => reports_extendRule_iff call c ?_
    simpa using hne

/-! ### The rule itself -/

variable {r : Rule} (hr : e.rules.rules[i]? = some r)

include hr

theorem getElem?_extendRule : (e.extendRule i c).rules.rules[i]? = some (r.extend c) := by
  show (e.rules.rules.modify i (·.extend c))[i]? = some (r.extend c)
  rw [List.getElem?_modify_eq, hr]
  rfl

/-- A rule that forbids the call after it was loosened did so before. -/
theorem exists_report_of_loosened (hc : r.IsLoosenedBy c)
    (h : ∃ p ∈ (e.extendRule i c).reports call, p.2.found.index = i) :
    ∃ p ∈ e.reports call, p.2.found.index = i := by
  rw [exists_mem_reports_iff _ call (getElem?_extendRule c hr)] at h
  obtain ⟨happlies, ⟨s, hs, habout⟩, hforbidden⟩ := h
  rw [exists_mem_reports_iff e call hr]
  -- An exclusion changes what the rule is about, an allowed place changes what it exempts.
  cases c with
  | exclude p => exact ⟨happlies, ⟨s, hs, Rule.isAbout_of_isAbout_exclude habout⟩, hforbidden⟩
  | allowIn g =>
    refine ⟨happlies, ⟨s, hs, habout⟩, ?_⟩
    rw [← Bool.not_eq_true] at hforbidden ⊢
    intro hexempt
    exact hforbidden (Rule.isExempt_extend_allowIn hc.1 hc.2 hexempt g)
  | allowInCaller p =>
    refine ⟨happlies, ⟨s, hs, habout⟩, ?_⟩
    rw [← Bool.not_eq_true] at hforbidden ⊢
    intro hexempt
    exact hforbidden (Rule.isExempt_extend_allowInCaller hc.1 hc.2 hexempt p)
  | _ => cases hc

/-- A rule that forbids the call still does so with one more call pattern. -/
theorem exists_report_of_isCall (hc : c.isCall = true)
    (h : ∃ p ∈ e.reports call, p.2.found.index = i) :
    ∃ p ∈ (e.extendRule i c).reports call, p.2.found.index = i := by
  rw [exists_mem_reports_iff e call hr] at h
  obtain ⟨happlies, ⟨s, hs, habout⟩, hforbidden⟩ := h
  rw [exists_mem_reports_iff _ call (getElem?_extendRule c hr)]
  cases c with
  | call p => exact ⟨happlies, ⟨s, hs, Rule.isAbout_extend_call habout p⟩, hforbidden⟩
  | _ => cases hc

/-- **One more clause.** Let one rule of the set get one more clause. If the clause excludes
symbols, or allows a file or a caller where the rule asks nothing of the arguments, a call that the
rule did not report is not reported by it now. If the clause is a call pattern, a call that the rule
reported is reported by it still. Whatever the clause is, the other rules report what they did,
under the same candidates and in the same order. -/
theorem evaluate_extendRule :
    e.Yields call (e.reports call) ∧
    (e.extendRule i c).Yields call ((e.extendRule i c).reports call) ∧
    (r.IsLoosenedBy c → (∀ p ∈ e.reports call, p.2.found.index ≠ i) →
      ∀ p ∈ (e.extendRule i c).reports call, p.2.found.index ≠ i) ∧
    (c.isCall = true → (∃ p ∈ e.reports call, p.2.found.index = i) →
      ∃ p ∈ (e.extendRule i c).reports call, p.2.found.index = i) ∧
    ((e.extendRule i c).reports call).filter (fun p => p.2.found.index != i) =
      (e.reports call).filter fun p => p.2.found.index != i := by
  refine ⟨e.yields_reports call, (e.extendRule i c).yields_reports call, ?_,
    exists_report_of_isCall call c hr, filter_reports_extendRule call c⟩
  intro hc hnone p hp hindex
  obtain ⟨q, hq, hqi⟩ := exists_report_of_loosened call c hr hc ⟨p, hp, hindex⟩
  exact hnone q hq hqi

end

/-- Calls of `Base::x` are forbidden, and calls of `Sub::x`. -/
def forbiddenInBaseAndSub : Engine where
  root := .locate "/" "/"
  rules := ⟨[{ Rule.blank .method with calls := [⟨"Base::x", .named "base::x"⟩] },
    { Rule.blank .method with calls := [⟨"Sub::x", .named "sub::x"⟩] }]⟩
  settings := .initial

/-- A call of a method of `Sub` that `Base` declares too. -/
def callInSub : CallSite where
  invoked := ⟨.staticMethod, .inClass "Sub", "x", "sub::x"⟩
  declaring := ⟨.staticMethod, .inClass "Sub", "x", "sub::x"⟩
  alsoDeclaredIn := [⟨.staticMethod, .inClass "Base", "x", "base::x"⟩]
  caller := none
  file := "a.php"
  line := 1
  arguments := []

/-- One more pattern lets the first rule report the call under the first candidate, and so before
the second rule, which reports what it did. Where the second rule forbids calls from `App` only, it
exempts the call, also with one more allowed file. -/
theorem evaluate_extendRule_callInSub :
    ∃ (e : Engine) (call allow : Clause),
      e = forbiddenInBaseAndSub.extendRule 1 (.allowExceptInCaller
        ⟨"App::*", .members (.inClass "app") ""⟩) ∧
      call = .call ⟨"Sub::*", .members (.inClass "sub") ""⟩ ∧
      allow = .allowIn ⟨"lib.php", "/lib.php", "/lib.php".toList.map .literal⟩ ∧
      (forbiddenInBaseAndSub.evaluate callInSub).map (·.rule) = ["Sub::x", "Base::x"] ∧
      ((forbiddenInBaseAndSub.extendRule 0 call).evaluate callInSub).map (·.rule) =
        ["Base::x", "Sub::x"] ∧
      (∃ p ∈ (forbiddenInBaseAndSub.extendRule 0 call).reports callInSub, p.2.found.index = 0) ∧
      ((forbiddenInBaseAndSub.extendRule 0 call).reports callInSub).filter
          (fun p => p.2.found.index != 0) =
        (forbiddenInBaseAndSub.reports callInSub).filter (fun p => p.2.found.index != 0) ∧
      ∀ p ∈ (e.extendRule 1 allow).reports callInSub, p.2.found.index ≠ 1 := by
  obtain ⟨-, -, -, hcall, hothers⟩ := evaluate_extendRule (e := forbiddenInBaseAndSub) (i := 0)
    callInSub (.call ⟨"Sub::*", .members (.inClass "sub") ""⟩) rfl
  obtain ⟨-, -, hallow, -, -⟩ := evaluate_extendRule
    (e := forbiddenInBaseAndSub.extendRule 1 (.allowExceptInCaller
      ⟨"App::*", .members (.inClass "app") ""⟩)) (i := 1) callInSub
    (.allowIn ⟨"lib.php", "/lib.php", "/lib.php".toList.map .literal⟩) rfl
  refine ⟨_, _, _, rfl, rfl, rfl, by decide +kernel, by decide +kernel, hcall rfl ?_, hothers,
    hallow ⟨rfl, rfl⟩ ?_⟩
  · decide +kernel
  · decide +kernel

end Engine

end CallPolicy
