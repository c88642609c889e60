import CallPolicy.Proofs.Conditions
import CallPolicy.Rule.Exemption

namespace CallPolicy

/-!
# Unknown arguments

A rule judges a call of whose arguments some are unknown. This file compares its decision with the
one that it takes when more is known.

* `CallSite.passing` — the call with other arguments.
* `Rule.judge_eq_of_no_hit` — without a value of `exceptParams`, the place decides.
* `Rule.judgePlace_of_refined` — an exemption by the place stays when more is known.
* `Rule.isExempt_refined_iff` — an exempt call stays exempt, for the same reason, when more is
  known, unless a value of `exceptParams` comes to light.
* `Rule.not_isExempt_refined` — which can happen where the place exempts a call, since it does so
  before unknown arguments are looked at.
-/

/-- The call with the given arguments. -/
def CallSite.passing (c : CallSite) (arguments : List Argument) : CallSite :=
  { c with arguments }

namespace ExemptReason

/-- The reason is the place of the call, not its arguments. -/
def isPlace : ExemptReason → Bool
  | allowedPath | allowedCaller | outsideDisallowedPaths | outsideDisallowedCallers => true
  | paramsNotForbidden | paramsAllowedAnywhere => false

end ExemptReason

namespace Rule

/-! ### When the steps exempt a call -/

theorem judgeAllowed_eq_exempt_iff (r : Rule) (arguments : List Argument)
    (reason reason' : ExemptReason) :
    r.judgeAllowed arguments reason = .exempt reason' ↔
      reason = reason' ∧ r.exceptParamsInAllowed.search arguments = .clear ∧
        r.paramsInAllowed.allHold arguments = true := by
  unfold judgeAllowed
  cases r.exceptParamsInAllowed.search arguments with
  | hit position => simp
  | unknown position => simp
  | clear => by_cases h : r.paramsInAllowed.allHold arguments = true <;> simp [h]

/-- Where no value of `exceptParams` was passed, the arguments exempt a call in two ways. -/
theorem judgeArguments_eq_exempt_iff (r : Rule) (arguments : List Argument)
    (hno : ∀ position, r.exceptParams.search arguments ≠ .hit position) (reason : ExemptReason) :
    r.judgeArguments arguments = .exempt reason ↔
      (reason = .paramsNotForbidden ∧ r.exceptParams.isEmpty = false ∧
        r.exceptParams.search arguments = .clear) ∨
      (reason = .paramsAllowedAnywhere ∧ r.exceptParams.isEmpty = true ∧
        r.paramsAnywhere.isEmpty = false ∧ r.paramsAnywhere.allHold arguments = true) := by
  unfold judgeArguments
  cases hempty : r.exceptParams.isEmpty with
  | false =>
    cases hsearch : r.exceptParams.search arguments with
    | hit position => exact absurd hsearch (hno position)
    | unknown position => simp
    | clear =>
      simp only [Exemption.exempt.injEq, Bool.false_eq_true, false_and, and_false, or_false,
        and_true]
      exact eq_comm
  | true =>
    by_cases h : (!r.paramsAnywhere.isEmpty && r.paramsAnywhere.allHold arguments) = true
    · have hboth : r.paramsAnywhere.isEmpty = false ∧
          r.paramsAnywhere.allHold arguments = true := by
        simpa using h
      rw [if_pos h]
      simp only [hboth, Exemption.exempt.injEq, Bool.true_eq_false, false_and, and_false, false_or,
        and_true]
      exact eq_comm
    · have hnot : r.paramsAnywhere.isEmpty = false →
          r.paramsAnywhere.allHold arguments = false := by
        simpa using h
      rw [if_neg h]
      simpa using fun _ => hnot

/-- A value of `exceptParams` forbids the call. -/
theorem judge_of_hit {r : Rule} (call : CallSite) {position : Nat}
    (h : r.exceptParams.search call.arguments = .hit position) (file : String) :
    r.judge call file = .disallowed (.forbiddenParam position) := by
  unfold judge
  rw [h]

/-- Without a value of `exceptParams`, the place decides. -/
theorem judge_eq_of_no_hit {r : Rule} (call : CallSite)
    (h : ∀ position, r.exceptParams.search call.arguments ≠ .hit position) (file : String) :
    r.judge call file = r.judgePlace call file := by
  unfold judge
  cases hsearch : r.exceptParams.search call.arguments with
  | hit position => exact absurd hsearch (h position)
  | unknown position => rfl
  | clear => rfl

theorem search_ne_hit_of_exempt {r : Rule} {call : CallSite} {file : String}
    {reason : ExemptReason} (h : r.judge call file = .exempt reason) (position : Nat) :
    r.exceptParams.search call.arguments ≠ .hit position := by
  intro hhit
  rw [judge_of_hit call hhit] at h
  exact Exemption.noConfusion h

/-! ### Knowing more -/

section

variable {r : Rule} {call : CallSite} {arguments : List Argument}
  (hrefined : List.Forall₂ Argument.RefinedBy call.arguments arguments)

include hrefined

theorem judgeAllowed_of_refined {reason reason' : ExemptReason}
    (h : r.judgeAllowed call.arguments reason = .exempt reason') :
    r.judgeAllowed arguments reason = .exempt reason' := by
  rw [judgeAllowed_eq_exempt_iff] at h ⊢
  obtain ⟨hreason, hclear, hhold⟩ := h
  exact ⟨hreason, Conditions.search_eq_clear_of_refined hrefined hclear,
    Conditions.allHold_of_refined hrefined hhold⟩

theorem judgeArguments_of_refined {reason : ExemptReason}
    (hbefore : ∀ position, r.exceptParams.search call.arguments ≠ .hit position)
    (hafter : ∀ position, r.exceptParams.search arguments ≠ .hit position)
    (h : r.judgeArguments call.arguments = .exempt reason) :
    r.judgeArguments arguments = .exempt reason := by
  rw [judgeArguments_eq_exempt_iff r _ hbefore] at h
  rw [judgeArguments_eq_exempt_iff r _ hafter]
  rcases h with ⟨hreason, hempty, hclear⟩ | ⟨hreason, hempty, hsome, hhold⟩
  · exact Or.inl ⟨hreason, hempty, Conditions.search_eq_clear_of_refined hrefined hclear⟩
  · exact Or.inr ⟨hreason, hempty, hsome, Conditions.allHold_of_refined hrefined hhold⟩

/-- An exemption stays, with its reason, when more is known and no value of `exceptParams` comes to
light. -/
theorem judgePlace_of_refined {file : String} {reason : ExemptReason}
    (hbefore : ∀ position, r.exceptParams.search call.arguments ≠ .hit position)
    (hafter : ∀ position, r.exceptParams.search arguments ≠ .hit position)
    (h : r.judgePlace call file = .exempt reason) :
    r.judgePlace (call.passing arguments) file = .exempt reason := by
  have hcaller : ∀ patterns,
      (call.passing arguments).isCalledFrom patterns = call.isCalledFrom patterns := fun _ => rfl
  -- The four tests of the place come out as before; the arguments count only behind them.
  unfold judgePlace at h ⊢
  simp only [hcaller]
  split at h
  · rename_i hpath
    rw [if_pos hpath]
    exact judgeAllowed_of_refined hrefined h
  rename_i hpath
  rw [if_neg hpath]
  split at h
  · rename_i hcalled
    rw [if_pos hcalled]
    exact judgeAllowed_of_refined hrefined h
  rename_i hcalled
  rw [if_neg hcalled]
  split at h
  · rename_i hexcept
    rw [if_pos hexcept]
    exact h
  rename_i hexcept
  rw [if_neg hexcept]
  split at h
  · rename_i hcallers
    rw [if_pos hcallers]
    exact h
  rename_i hcallers
  rw [if_neg hcallers]
  exact judgeArguments_of_refined hrefined hbefore hafter h

end

/-! ### The condition under which an exemption stays -/

/-- An exemption for the sake of the arguments comes from the last two steps. -/
theorem judgeArguments_of_judgePlace {r : Rule} {call : CallSite} {file : String}
    {reason : ExemptReason} (h : r.judgePlace call file = .exempt reason)
    (hreason : reason.isPlace = false) : r.judgeArguments call.arguments = .exempt reason := by
  -- Each of the four steps before the last exempts a call for its place, if at all.
  unfold judgePlace at h
  split at h
  · rw [judgeAllowed_eq_exempt_iff] at h
    exact absurd (h.1 ▸ hreason) Bool.noConfusion
  split at h
  · rw [judgeAllowed_eq_exempt_iff] at h
    exact absurd (h.1 ▸ hreason) Bool.noConfusion
  split at h
  · split at h
    · exact Exemption.noConfusion h
    · obtain rfl := Exemption.exempt.inj h
      exact absurd hreason Bool.noConfusion
  split at h
  · split at h
    · exact Exemption.noConfusion h
    · obtain rfl := Exemption.exempt.inj h
      exact absurd hreason Bool.noConfusion
  exact h

/-- A call that is exempt for the sake of its arguments holds no unknown one that counts. -/
theorem search_eq_clear_of_not_isPlace {r : Rule} {call : CallSite} {file : String}
    {reason : ExemptReason} (h : r.judge call file = .exempt reason)
    (hreason : reason.isPlace = false) : r.exceptParams.search call.arguments = .clear := by
  have hno := search_ne_hit_of_exempt h
  rw [judge_eq_of_no_hit call hno] at h
  have harguments := judgeArguments_of_judgePlace h hreason
  rw [judgeArguments_eq_exempt_iff r _ hno] at harguments
  rcases harguments with ⟨-, -, hclear⟩ | ⟨-, hempty, -⟩
  · exact hclear
  -- `exceptParams` is empty here, so there is nothing to find.
  · rw [Conditions.search_eq_clear_iff]
    rw [Conditions.isEmpty, List.isEmpty_iff] at hempty
    simp [hempty]

/-- **When an exemption stays.** Let some unknown arguments of an exempt call turn out to be
literals. The call stays exempt, for the same reason, exactly if no literal of `exceptParams` comes
to light. If one does, it forbids the call; the call was then exempt for its place only, and the
position of some entry of `exceptParams` held an unknown argument. -/
theorem isExempt_refined_iff {r : Rule} {call : CallSite} {arguments : List Argument}
    {file : String} {reason : ExemptReason}
    (hrefined : List.Forall₂ Argument.RefinedBy call.arguments arguments)
    (hexempt : r.judge call file = .exempt reason) :
    ((r.judge (call.passing arguments) file).isExempt = true ↔
      ∀ position, r.exceptParams.search arguments ≠ .hit position) ∧
    ((∀ position, r.exceptParams.search arguments ≠ .hit position) →
      r.judge (call.passing arguments) file = .exempt reason) ∧
    ∀ position, r.exceptParams.search arguments = .hit position →
      r.judge (call.passing arguments) file = .disallowed (.forbiddenParam position) ∧
        reason.isPlace = true ∧
          ∃ unknown, r.exceptParams.search call.arguments = .unknown unknown := by
  have hbefore := search_ne_hit_of_exempt hexempt
  have hhit : ∀ position, r.exceptParams.search arguments = .hit position →
      r.judge (call.passing arguments) file = .disallowed (.forbiddenParam position) :=
    fun position h => judge_of_hit (call.passing arguments) h file
  have hstays : (∀ position, r.exceptParams.search arguments ≠ .hit position) →
      r.judge (call.passing arguments) file = .exempt reason := by
    intro hafter
    rw [judge_eq_of_no_hit call hbefore] at hexempt
    rw [judge_eq_of_no_hit (call.passing arguments) hafter]
    exact judgePlace_of_refined hrefined hbefore hafter hexempt
  -- A clear search stays clear, so what comes to light was unknown.
  have hnotClear : ∀ position, r.exceptParams.search arguments = .hit position →
      r.exceptParams.search call.arguments ≠ .clear := by
    intro position h hclear
    rw [Conditions.search_eq_clear_of_refined hrefined hclear] at h
    exact SearchResult.noConfusion h
  refine ⟨⟨?_, fun hafter => ?_⟩, hstays, ?_⟩
  · intro hexempt' position h
    rw [hhit position h] at hexempt'
    exact Bool.noConfusion hexempt'
  · rw [hstays hafter]
    rfl
  · intro position h
    refine ⟨hhit position h, ?_, ?_⟩
    · by_contra hreason
      rw [Bool.not_eq_true] at hreason
      exact hnotClear position h (search_eq_clear_of_not_isPlace hexempt hreason)
    · cases hsearch : r.exceptParams.search call.arguments with
      | hit position' => exact absurd hsearch (hbefore position')
      | clear => exact absurd hsearch (hnotClear position h)
      | unknown unknown => exact ⟨unknown, rfl⟩

/-! ### A literal that comes to light -/

/-- Calls of `Foo::bar` are allowed in the class `App`, and forbidden with `'y'`. -/
def allowedInApp : List Clause :=
  [.call ⟨"Foo::bar", .named "foo::bar"⟩, .allowInCaller ⟨"App::*", .members (.inClass "app") ""⟩,
    .exceptParams ⟨[(1, .text "y")]⟩]

/-- A call of `Foo::bar` in the class `App`. -/
def callInApp (a : Argument) : CallSite where
  invoked := ⟨.staticMethod, .inClass "Foo", "bar", "foo::bar"⟩
  declaring := ⟨.staticMethod, .inClass "Foo", "bar", "foo::bar"⟩
  alsoDeclaredIn := []
  caller := some ⟨.instanceMethod, .inClass "App", "boot", "app::boot"⟩
  file := "src/a.php"
  line := 1
  arguments := [a]

/-- The call is exempt for its caller with an unknown argument and with `'n'`, and forbidden with
`'y'`. -/
theorem isExempt_refined_callInApp :
    ∃ r, Rule.assemble .method allowedInApp = .ok r ∧
      List.Forall₂ Argument.RefinedBy (callInApp .unknown).arguments [.text "n"] ∧
      List.Forall₂ Argument.RefinedBy (callInApp .unknown).arguments [.text "y"] ∧
      r.judge (callInApp .unknown) "/src/a.php" = .exempt .allowedCaller ∧
      r.judge ((callInApp .unknown).passing [.text "n"]) "/src/a.php" = .exempt .allowedCaller ∧
      r.judge ((callInApp .unknown).passing [.text "y"]) "/src/a.php" =
        .disallowed (.forbiddenParam 1) := by
  have hrefined : ∀ text, List.Forall₂ Argument.RefinedBy (callInApp .unknown).arguments
      [.text text] := fun text => .cons (Or.inr ⟨rfl, rfl⟩) .nil
  refine ⟨_, rfl, hrefined "n", hrefined "y", rfl, ?_, ?_⟩
  · refine (isExempt_refined_iff (hrefined "n") rfl).2.1 ?_
    intro position h
    exact SearchResult.noConfusion h
  · exact ((isExempt_refined_iff (hrefined "y") rfl).2.2 1 rfl).1

/-- It is not true that a call which is exempt stays exempt when more is known of its arguments:
the place exempts a call before its unknown arguments are looked at. -/
theorem not_isExempt_refined :
    ¬ ∀ (kind : RuleKind) (clauses : List Clause) (r : Rule) (call : CallSite)
        (arguments : List Argument) (file : String),
      Rule.assemble kind clauses = .ok r →
      List.Forall₂ Argument.RefinedBy call.arguments arguments →
      (r.judge call file).isExempt = true →
      (r.judge (call.passing arguments) file).isExempt = true := by
  intro h
  have hstays := h .method allowedInApp _ (callInApp .unknown) [.text "y"] "/src/a.php" rfl
    (.cons (Or.inr ⟨rfl, rfl⟩) .nil) rfl
  exact Bool.noConfusion hstays

end Rule

end CallPolicy
