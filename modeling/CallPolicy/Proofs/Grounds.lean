import CallPolicy.Proofs.BuiltConditions
import CallPolicy.Proofs.ForbiddenPlaces

namespace CallPolicy

/-!
# The grounds of a decision

A rule gives a reason with every decision. This file says what each reason asserts of the rule, the
call and its file, and shows that the reason given is always true.

* `Rule.AllowsPlace`, `Rule.AllowsArguments` — what the rule says of allowed files and callers.
* `Rule.Grounds` — what a reason asserts.
* `Rule.grounds_judgeAllowed`, `Rule.grounds_judgeArguments`, `Rule.grounds_judgePlace` — one step
  of the decision after the other gives a true reason, if those before it left the call open.
* `Rule.grounds_judge` — so does the whole, and it names a forbidden literal whenever there is one.
-/

namespace Conditions

/-- Every argument at a position of the conditions is known, and does not agree with the literal. -/
def RulesOut (c : Conditions) (arguments : List Argument) : Prop :=
  ∀ entry ∈ c.entries, ∀ a, argumentAt? arguments entry.1 = some a →
    a.agrees entry.2 = false ∧ a.isKnown = true

/-- No position is hit, and the position is the least one with an unknown argument. -/
structure FirstUnsure (c : Conditions) (arguments : List Argument) (position : Nat) : Prop where
  no_hit : ∀ q, ¬ c.HitsAt arguments q
  least : IsLeast {q | c.UnsureAt arguments q} position

/-- Every position holds its literal. -/
def AllHold (c : Conditions) (arguments : List Argument) : Prop :=
  ∀ entry ∈ c.entries, Holds arguments entry

theorem isEmpty_eq_false_iff (c : Conditions) : c.isEmpty = false ↔ c.entries ≠ [] := by
  simp [isEmpty]

end Conditions

namespace Rule

/-! ### Allowed places -/

/-- The rule allows calls in the file. -/
def AllowsFile (r : Rule) (file : String) : Prop :=
  ∃ g ∈ r.allowIn, g.covers file = true

/-- The rule allows calls in the caller of this one. -/
def AllowsCaller (r : Rule) (call : CallSite) : Prop :=
  ∃ caller, call.caller = some caller ∧ ∃ p ∈ r.allowInCallers, p.covers caller = true

/-- The rule allows calls in the file or in the caller. -/
def AllowsPlace (r : Rule) (call : CallSite) (file : String) : Prop :=
  r.AllowsFile file ∨ r.AllowsCaller call

/-- The arguments are such as the rule asks for in an allowed file or caller. -/
structure AllowsArguments (r : Rule) (arguments : List Argument) : Prop where
  ruledOut : r.exceptParamsInAllowed.RulesOut arguments
  required : r.paramsInAllowed.AllHold arguments

/-- The rule says nothing about the file and the caller. -/
structure IgnoresPlace (r : Rule) (call : CallSite) (file : String) : Prop where
  not_allowed : ¬ r.AllowsPlace call file
  unrestricted : ¬ r.RestrictsPlaces

/-! ### Reasons -/

/-- What the reason of a decision asserts. -/
def Grounds (r : Rule) (call : CallSite) (file : String) : Exemption → Prop
  | .disallowed (.forbiddenParam position) =>
    IsLeast {q | r.exceptParams.HitsAt call.arguments q} position
  | .disallowed (.unknownParam position) =>
    (r.AllowsPlace call file ∧ r.exceptParamsInAllowed.FirstUnsure call.arguments position) ∨
      (r.IgnoresPlace call file ∧ r.exceptParams.FirstUnsure call.arguments position)
  | .disallowed .paramsNotAllowed =>
    r.AllowsPlace call file ∧ ¬ r.AllowsArguments call.arguments
  | .disallowed .disallowedPath => ¬ r.AllowsPlace call file ∧ r.ForbidsFile file
  | .disallowed .disallowedCaller =>
    ¬ r.AllowsPlace call file ∧ r.allowExceptIn = [] ∧ r.ForbidsCaller call
  | .disallowed .noExemption =>
    r.IgnoresPlace call file ∧ r.exceptParams.entries = [] ∧
      (r.paramsAnywhere.entries = [] ∨ ¬ r.paramsAnywhere.AllHold call.arguments)
  | .exempt .allowedPath => r.AllowsFile file ∧ r.AllowsArguments call.arguments
  | .exempt .allowedCaller =>
    ¬ r.AllowsFile file ∧ r.AllowsCaller call ∧ r.AllowsArguments call.arguments
  | .exempt .outsideDisallowedPaths =>
    ¬ r.AllowsPlace call file ∧ r.allowExceptIn ≠ [] ∧ ¬ r.ForbidsFile file
  | .exempt .outsideDisallowedCallers =>
    ¬ r.AllowsPlace call file ∧ r.allowExceptIn = [] ∧ r.allowExceptInCallers ≠ [] ∧
      ¬ r.ForbidsCaller call
  | .exempt .paramsNotForbidden =>
    r.IgnoresPlace call file ∧ r.exceptParams.entries ≠ [] ∧
      r.exceptParams.RulesOut call.arguments
  | .exempt .paramsAllowedAnywhere =>
    r.IgnoresPlace call file ∧ r.exceptParams.entries = [] ∧ r.paramsAnywhere.entries ≠ [] ∧
      r.paramsAnywhere.AllHold call.arguments

section

variable {r : Rule} {call : CallSite} {file : String}

/-! ### Step by step -/

theorem allowsArguments_iff (arguments : List Argument) :
    r.AllowsArguments arguments ↔ r.exceptParamsInAllowed.search arguments = .clear ∧
      r.paramsInAllowed.allHold arguments = true := by
  rw [Conditions.search_eq_clear_iff, Conditions.allHold_iff]
  constructor
  · intro h
    exact ⟨h.ruledOut, h.required⟩
  · rintro ⟨hruled, hrequired⟩
    exact ⟨hruled, hrequired⟩

/-- In an allowed place the arguments decide. -/
theorem grounds_judgeAllowed (hr : r.IsBuilt) (hplace : r.AllowsPlace call file)
    {reason : ExemptReason}
    (hreason : r.AllowsArguments call.arguments → r.Grounds call file (.exempt reason)) :
    r.Grounds call file (r.judgeAllowed call.arguments reason) := by
  unfold judgeAllowed
  cases hsearch : r.exceptParamsInAllowed.search call.arguments with
  | hit position =>
    refine ⟨hplace, fun hallows => ?_⟩
    have hclear := ((allowsArguments_iff _).1 hallows).1
    rw [hsearch] at hclear
    cases hclear
  | unknown position =>
    obtain ⟨hno, hleast⟩ := (Conditions.search_eq_unknown_iff
      hr.exceptParamsInAllowed.positions_sorted _ position).1 hsearch
    exact Or.inl ⟨hplace, hno, hleast⟩
  | clear =>
    dsimp only
    by_cases hhold : r.paramsInAllowed.allHold call.arguments = true
    · rw [if_pos hhold]
      exact hreason ((allowsArguments_iff _).2 ⟨hsearch, hhold⟩)
    · rw [if_neg hhold]
      exact ⟨hplace, fun hallows => hhold ((allowsArguments_iff _).1 hallows).2⟩

/-- Where the rule says nothing about the place, the arguments decide. -/
theorem grounds_judgeArguments (hr : r.IsBuilt)
    (hno : ∀ position, r.exceptParams.search call.arguments ≠ .hit position)
    (hignores : r.IgnoresPlace call file) :
    r.Grounds call file (r.judgeArguments call.arguments) := by
  unfold judgeArguments
  cases hempty : r.exceptParams.isEmpty with
  | false =>
    have hsome := (Conditions.isEmpty_eq_false_iff _).1 hempty
    cases hsearch : r.exceptParams.search call.arguments with
    | hit position => exact absurd hsearch (hno position)
    | unknown position =>
      obtain ⟨hnoHit, hleast⟩ := (Conditions.search_eq_unknown_iff
        hr.exceptParams.positions_sorted _ position).1 hsearch
      exact Or.inr ⟨hignores, hnoHit, hleast⟩
    | clear => exact ⟨hignores, hsome, (Conditions.search_eq_clear_iff _ _).1 hsearch⟩
  | true =>
    have hnone : r.exceptParams.entries = [] := by simpa [Conditions.isEmpty] using hempty
    by_cases hanywhere :
        (!r.paramsAnywhere.isEmpty && r.paramsAnywhere.allHold call.arguments) = true
    · rw [if_pos hanywhere]
      simp only [Bool.and_eq_true, Bool.not_eq_true', Conditions.isEmpty_eq_false_iff,
        Conditions.allHold_iff] at hanywhere
      exact ⟨hignores, hnone, hanywhere⟩
    · rw [if_neg hanywhere]
      simp only [Bool.and_eq_true, Bool.not_eq_true', Conditions.isEmpty_eq_false_iff,
        Conditions.allHold_iff, not_and_or, not_not] at hanywhere
      exact ⟨hignores, hnone, hanywhere⟩

theorem grounds_judgePlace (hr : r.IsBuilt)
    (hno : ∀ position, r.exceptParams.search call.arguments ≠ .hit position) :
    r.Grounds call file (r.judgePlace call file) := by
  unfold judgePlace
  -- The allowed places come first, then the forbidden ones.
  by_cases hfile : anyCovers r.allowIn file = true
  · rw [if_pos hfile]
    have hallows : r.AllowsFile file := (anyCovers_iff _ _).1 hfile
    exact grounds_judgeAllowed hr (Or.inl hallows) fun harguments => ⟨hallows, harguments⟩
  rw [if_neg hfile]
  have hnotFile : ¬ r.AllowsFile file := fun h => hfile ((anyCovers_iff _ _).2 h)
  by_cases hcaller : call.isCalledFrom r.allowInCallers = true
  · rw [if_pos hcaller]
    have hallows : r.AllowsCaller call := (call.isCalledFrom_iff _).1 hcaller
    exact grounds_judgeAllowed hr (Or.inr hallows) fun harguments =>
      ⟨hnotFile, hallows, harguments⟩
  rw [if_neg hcaller]
  have hnotCaller : ¬ r.AllowsCaller call := fun h => hcaller ((call.isCalledFrom_iff _).2 h)
  have houtside : ¬ r.AllowsPlace call file := not_or.2 ⟨hnotFile, hnotCaller⟩
  by_cases hpaths : r.allowExceptIn = []
  · rw [if_neg (by simp [hpaths])]
    by_cases hcallers : r.allowExceptInCallers = []
    · rw [if_neg (by simp [hcallers])]
      have hunrestricted : ¬ r.RestrictsPlaces := not_or.2 ⟨not_not.2 hpaths, not_not.2 hcallers⟩
      exact grounds_judgeArguments hr hno ⟨houtside, hunrestricted⟩
    · rw [if_pos (by simpa using hcallers)]
      by_cases hforbidden : call.isCalledFrom r.allowExceptInCallers = true
      · rw [if_pos hforbidden]
        exact ⟨houtside, hpaths, (call.isCalledFrom_iff _).1 hforbidden⟩
      · rw [if_neg hforbidden]
        exact ⟨houtside, hpaths, hcallers, fun h => hforbidden ((call.isCalledFrom_iff _).2 h)⟩
  · rw [if_pos (by simpa using hpaths)]
    by_cases hforbidden : anyCovers r.allowExceptIn file = true
    · rw [if_pos hforbidden]
      exact ⟨houtside, (anyCovers_iff _ _).1 hforbidden⟩
    · rw [if_neg hforbidden]
      exact ⟨houtside, hpaths, fun h => hforbidden ((anyCovers_iff _ _).2 h)⟩

/-! ### The whole decision -/

/-- **Reasons are true.** Let a rule be accepted, its conditions being built by insertions. What
the reason of its decision asserts is so; and a call is forbidden for the literal at a position
exactly if this is the least position of `exceptParams` whose argument agrees with its literal. -/
theorem grounds_judge {kind : RuleKind} {clauses : List Clause}
    (hclauses : ∀ clause ∈ clauses, clause.IsBuilt) (hr : Rule.assemble kind clauses = .ok r)
    (call : CallSite) (file : String) :
    (∀ position, r.judge call file = .disallowed (.forbiddenParam position) ↔
      r.Grounds call file (.disallowed (.forbiddenParam position))) ∧
    r.Grounds call file (r.judge call file) := by
  have hbuilt : r.IsBuilt := isBuilt_of_assemble hclauses hr
  have hsorted := hbuilt.exceptParams.positions_sorted
  have hgrounds : r.Grounds call file (r.judge call file) := by
    by_cases hhit : ∃ position, r.exceptParams.search call.arguments = .hit position
    · obtain ⟨position, hsearch⟩ := hhit
      rw [judge_of_hit call hsearch]
      exact (Conditions.search_eq_hit_iff hsorted _ position).1 hsearch
    · have hno := not_exists.1 hhit
      rw [judge_eq_of_no_hit call hno]
      exact grounds_judgePlace hbuilt hno
  refine ⟨fun position => ⟨fun h => ?_, fun hleast => ?_⟩, hgrounds⟩
  · rw [h] at hgrounds
    exact hgrounds
  · exact judge_of_hit call ((Conditions.search_eq_hit_iff hsorted _ position).2 hleast) file

end

/-- Calls of `Foo::bar` are allowed in the class `App`, but not with null, and forbidden anywhere
with `'y'` and with `'z'` behind it. -/
def guardedInApp : List Clause :=
  [.call ⟨"Foo::bar", .named "foo::bar"⟩, .allowInCaller ⟨"App::*", .members (.inClass "app") ""⟩,
    .exceptParamsInAllowed ⟨[(1, .null)]⟩, .exceptParams ⟨[(1, .text "y"), (2, .text "z")]⟩]

theorem isBuilt_guardedInApp : ∀ clause ∈ guardedInApp, clause.IsBuilt := by
  have hnull : Conditions.empty.insert 1 .null = .ok ⟨[(1, .null)]⟩ := rfl
  have hy : Conditions.empty.insert 1 (.text "y") = .ok ⟨[(1, .text "y")]⟩ := rfl
  have hz : Conditions.insert ⟨[(1, .text "y")]⟩ 2 (.text "z") =
      .ok ⟨[(1, .text "y"), (2, .text "z")]⟩ := rfl
  intro clause hclause
  simp only [guardedInApp, List.mem_cons, List.not_mem_nil, or_false] at hclause
  rcases hclause with rfl | rfl | rfl | rfl
  · trivial
  · trivial
  · exact Conditions.Built.empty.insert hnull
  · exact (Conditions.Built.empty.insert hy).insert hz

/-- In the class `App` an unknown argument may be null, and `'z'` is forbidden even there. -/
theorem grounds_judge_guardedInApp :
    (∀ clause ∈ guardedInApp, clause.IsBuilt) ∧
      ∃ r, Rule.assemble .method guardedInApp = .ok r ∧
        (r.AllowsPlace (callInApp .unknown) "/src/a.php" ∧
          r.exceptParamsInAllowed.FirstUnsure [.unknown] 1 ∨
            r.IgnoresPlace (callInApp .unknown) "/src/a.php" ∧
              r.exceptParams.FirstUnsure [.unknown] 1) ∧
        IsLeast {q | r.exceptParams.HitsAt [.text "n", .text "z"] q} 2 := by
  obtain ⟨-, hunsure⟩ := grounds_judge isBuilt_guardedInApp rfl (callInApp .unknown) "/src/a.php"
  obtain ⟨hforbidden, -⟩ := grounds_judge isBuilt_guardedInApp rfl
    ((callInApp .unknown).passing [.text "n", .text "z"]) "/src/a.php"
  exact ⟨isBuilt_guardedInApp, _, rfl, hunsure, (hforbidden 2).1 rfl⟩

end Rule

end CallPolicy
