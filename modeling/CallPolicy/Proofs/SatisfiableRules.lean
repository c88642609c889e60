import CallPolicy.Proofs.Completions
import CallPolicy.Proofs.Grounds

namespace CallPolicy

/-!
# Rules that can be satisfied

A rule is refused if it requires and forbids one value at one position. This file shows that these
are the rules whose conditions for allowed places no arguments satisfy.

* `Conditions.ConflictsAt` — the position requires a literal that agrees with the forbidden one;
  `Conditions.conflict?_eq_some_iff` — the conflict that is found is at the least such position.
* `Conditions.answer` — arguments that hold what is required and nothing else that is forbidden.
* `Conditions.satisfiable_iff` — some arguments satisfy both exactly if there is no conflict.
* `Rule.judge_of_allowsArguments` — a call that satisfies them is exempt in an allowed file.
* `Rule.assemble_conflict_iff_unsatisfiable` — so a rule with call patterns is refused exactly if
  there are no arguments that it allows.
-/

namespace Conditions

/-! ### Conflicts -/

/-- A literal is required at the position that agrees with the one forbidden there. -/
def ConflictsAt (required forbidden : Conditions) (position : Nat) : Prop :=
  ∃ value literal, (position, value) ∈ required.entries ∧ (position, literal) ∈ forbidden.entries ∧
    literal.agrees value = true

section

variable {required forbidden : Conditions} (hforbidden : forbidden.Built)

include hforbidden

theorem any_get?_iff (position : Nat) (value : Argument) :
    (forbidden.get? position).any (·.agrees value) = true ↔
      ∃ literal, (position, literal) ∈ forbidden.entries ∧ literal.agrees value = true := by
  rw [Option.any_eq_true]
  refine exists_congr fun literal => and_congr_left fun _ => ?_
  exact ⟨mem_of_get?_eq_some, hforbidden.get?_of_mem⟩

theorem conflictsAt_iff (position : Nat) :
    ConflictsAt required forbidden position ↔ ∃ e ∈ required.entries, e.1 = position ∧
      (forbidden.get? e.1).any (·.agrees e.2) = true := by
  simp only [any_get?_iff hforbidden]
  constructor
  · rintro ⟨value, literal, hvalue, hliteral⟩
    exact ⟨_, hvalue, rfl, literal, hliteral⟩
  · rintro ⟨e, hmem, rfl, literal, hliteral⟩
    exact ⟨e.2, literal, hmem, hliteral⟩

/-- Without a conflict, none is found. -/
theorem conflict?_eq_none_iff :
    Rule.conflict? required forbidden = none ↔
      ∀ position, ¬ ConflictsAt required forbidden position := by
  unfold Rule.conflict?
  rw [Option.map_eq_none_iff, find?_eq_none_iff_position]
  simp only [conflictsAt_iff hforbidden]

/-- The conflict that is found is the one at the least position. -/
theorem conflict?_eq_some_iff (hrequired : required.Built) (position : Nat) :
    Rule.conflict? required forbidden = some position ↔
      IsLeast {q | ConflictsAt required forbidden q} position := by
  simp only [conflictsAt_iff hforbidden]
  exact find?_position_eq_some_iff hrequired.positions_sorted _ position

end

/-! ### Arguments that satisfy conditions -/

/-- The required literal of a position, or else one that is not forbidden there. -/
def answerAt (required forbidden : Conditions) (position : Nat) : Argument :=
  (required.get? position).getD (forbidden.literalAt position).otherThan

/-- What is required at each position, or else something that is not forbidden there, up to the last
position at which anything is required. -/
def answer (required forbidden : Conditions) : List Argument :=
  fillUnknown (answerAt required forbidden)
    (List.replicate (required.positions.max?.getD 0) .unknown)

theorem argumentAt?_replicate {length position : Nat} (hposition : position ≠ 0)
    (hle : position ≤ length) (a : Argument) :
    argumentAt? (List.replicate length a) position = some a := by
  cases position with
  | zero => exact absurd rfl hposition
  | succ i =>
    show (List.replicate length a)[i]? = some a
    rw [List.getElem?_replicate, if_pos (by omega)]

section

variable {required forbidden : Conditions} (hrequired : required.Built)

include hrequired

theorem isKnown_answerAt (position : Nat) :
    (answerAt required forbidden position).isKnown = true := by
  unfold answerAt
  cases hget : required.get? position with
  | none => exact Argument.isKnown_otherThan _
  | some value =>
    have hknown : (required.literalAt position).isKnown = true :=
      isKnown_literalAt hrequired position
    rwa [literalAt, hget] at hknown

/-- Every argument of the answer is the one for its position. -/
theorem argumentAt?_answer {position : Nat} {a : Argument}
    (h : argumentAt? (answer required forbidden) position = some a) :
    a = answerAt required forbidden position := by
  have hcompletes : Completes _ (answer required forbidden) :=
    completes_fillUnknown (isKnown_answerAt hrequired) _
  obtain ⟨b, hb, -⟩ := argumentAt?_of_refined' hcompletes.refined h
  -- The answer was filled in where nothing was known.
  have hunknown : b = .unknown := by
    cases position with
    | zero => cases hb
    | succ i => exact List.eq_of_mem_replicate (List.mem_of_getElem? hb)
  rw [hunknown] at hb
  exact Option.some.inj (h.symm.trans (argumentAt?_fillUnknown hb _))

/-- The answer holds every literal that is required. -/
theorem allHold_answer (hnan : ∀ entry ∈ required.entries, ¬ entry.2.IsNaN)
    (forbidden : Conditions) : required.allHold (answer required forbidden) = true := by
  rw [allHold_iff]
  rintro ⟨position, value⟩ hmem
  have hle : position ≤ required.positions.max?.getD 0 :=
    List.le_max?_getD_of_mem (List.mem_map_of_mem hmem)
  have hfilled : argumentAt? (answer required forbidden) position =
      some (answerAt required forbidden position) :=
    argumentAt?_fillUnknown
      (argumentAt?_replicate (hrequired.position_ne_zero hmem) hle .unknown) _
  have hvalue : answerAt required forbidden position = value := by
    rw [answerAt, hrequired.get?_of_mem hmem]
    rfl
  rw [hvalue] at hfilled
  exact ⟨value, hfilled, Argument.agrees_self (hrequired.isKnown hmem) (hnan _ hmem)⟩

variable (hforbidden : forbidden.Built)

include hforbidden

/-- Without a conflict, the answer holds nothing that is forbidden. -/
theorem search_answer (hno : ∀ position, ¬ ConflictsAt required forbidden position) :
    forbidden.search (answer required forbidden) = .clear := by
  rw [search_eq_clear_iff]
  rintro ⟨position, literal⟩ hmem a ha
  obtain rfl := argumentAt?_answer hrequired ha
  refine ⟨?_, isKnown_answerAt hrequired position⟩
  unfold answerAt
  cases hget : required.get? position with
  | none =>
    -- Nothing is required at the position, so the argument could be chosen.
    rw [literalAt_of_mem hforbidden hmem]
    exact Argument.agrees_otherThan literal
  | some value =>
    rw [Option.getD_some, ← Bool.not_eq_true]
    intro hagrees
    exact hno position ⟨value, literal, mem_of_get?_eq_some hget, hmem,
      Argument.agrees_symm hagrees⟩

/-- Some arguments hold all that is required and nothing that is forbidden, exactly if no position
requires what it forbids. -/
theorem satisfiable_iff (hnan : ∀ entry ∈ required.entries, ¬ entry.2.IsNaN) :
    (∃ arguments, forbidden.search arguments = .clear ∧ required.allHold arguments = true) ↔
      ∀ position, ¬ ConflictsAt required forbidden position := by
  constructor
  · rintro ⟨arguments, hclear, hhold⟩ position ⟨value, literal, hvalue, hliteral, hconflict⟩
    -- The argument agrees with the required value, and so with the forbidden literal.
    obtain ⟨a, ha, hagrees⟩ := (allHold_iff required arguments).1 hhold _ hvalue
    have hforbids : a.agrees literal = true :=
      Argument.agrees_trans hagrees (Argument.agrees_symm hconflict)
    have hdisagrees := ((search_eq_clear_iff forbidden arguments).1 hclear _ hliteral a ha).1
    rw [hforbids] at hdisagrees
    cases hdisagrees
  · intro hno
    exact ⟨answer required forbidden, search_answer hrequired hforbidden hno,
      allHold_answer hrequired hnan forbidden⟩

end

end Conditions

namespace Rule

/-! ### Rules that allow arguments -/

/-- In a file of `allowIn`, a call with such arguments as the rule allows is exempt. -/
theorem judge_of_allowsArguments {r : Rule} {call : CallSite}
    (hallows : r.AllowsArguments call.arguments) (hexcept : r.exceptParams.isEmpty = true)
    {file : String} (hfile : r.AllowsFile file) : r.judge call file = .exempt .allowedPath := by
  have hno : ∀ position, r.exceptParams.search call.arguments ≠ .hit position := by
    intro position
    rw [Conditions.search_of_isEmpty hexcept call.arguments]
    exact SearchResult.noConfusion
  have hcovers : anyCovers r.allowIn file = true := List.any_eq_true.2 hfile
  rw [judge_eq_of_no_hit call hno, judgePlace, if_pos hcovers, judgeAllowed_eq_exempt_iff]
  exact ⟨rfl, (allowsArguments_iff call.arguments).1 hallows⟩

/-! ### Rules that are refused -/

section

variable {kind : RuleKind} {clauses : List Clause} {r : Rule}
  (hr : clauses.foldl Rule.extend (.blank kind) = r) (hcalls : r.calls ≠ [])

include hr hcalls

/-- With a call pattern, a rule can only be refused for a conflict. -/
theorem assemble_eq_of_calls :
    assemble kind clauses =
      match conflict? r.paramsInAllowed r.exceptParamsInAllowed with
      | some position => .error (.conflictingParams position)
      | none => .ok r := by
  have hsome : r.calls.isEmpty = false := by simpa using hcalls
  unfold assemble fault?
  rw [hr]
  simp only [hsome, Bool.false_eq_true, if_false]
  cases conflict? r.paramsInAllowed r.exceptParamsInAllowed <;> rfl

theorem assemble_eq_conflict_iff (position : Nat) :
    assemble kind clauses = .error (.conflictingParams position) ↔
      conflict? r.paramsInAllowed r.exceptParamsInAllowed = some position := by
  rw [assemble_eq_of_calls hr hcalls]
  cases conflict? r.paramsInAllowed r.exceptParamsInAllowed with
  | none => simp
  | some found => simp

/-- **Refused rules.** Let the clauses of a rule name a call pattern, let their conditions be built
by insertions, and let no value that they require in allowed places be NaN. They are refused for a
conflict exactly if there are no arguments that they allow there, and they are refused for the least
position at which a value is required and forbidden. Otherwise they make their rule, and unless that
forbids values everywhere, there are arguments with which it exempts every call in every file of
`allowIn`. -/
theorem assemble_conflict_iff_unsatisfiable (hbuilt : ∀ clause ∈ clauses, clause.IsBuilt)
    (hnan : ∀ entry ∈ r.paramsInAllowed.entries, ¬ entry.2.IsNaN) :
    ((∃ position, assemble kind clauses = .error (.conflictingParams position)) ↔
      ¬ ∃ arguments, r.AllowsArguments arguments) ∧
    (∀ position, assemble kind clauses = .error (.conflictingParams position) ↔
      IsLeast {q | r.paramsInAllowed.ConflictsAt r.exceptParamsInAllowed q} position) ∧
    ((∀ position, assemble kind clauses ≠ .error (.conflictingParams position)) →
      assemble kind clauses = .ok r ∧
      (r.exceptParams.isEmpty = true → ∃ arguments, ∀ call : CallSite, call.arguments = arguments →
        ∀ file, r.AllowsFile file → r.judge call file = .exempt .allowedPath)) := by
  have hrule : r.IsBuilt := hr ▸ isBuilt_of_clauses hbuilt kind
  -- The arguments that are allowed satisfy both conditions.
  have hsatisfiable : (∃ arguments, r.AllowsArguments arguments) ↔
      conflict? r.paramsInAllowed r.exceptParamsInAllowed = none := by
    simp only [allowsArguments_iff]
    rw [Conditions.conflict?_eq_none_iff hrule.exceptParamsInAllowed]
    exact Conditions.satisfiable_iff hrule.paramsInAllowed hrule.exceptParamsInAllowed hnan
  simp only [assemble_eq_conflict_iff hr hcalls, ne_eq, hsatisfiable]
  refine ⟨Option.ne_none_iff_exists'.symm, fun position => ?_, fun hno => ?_⟩
  · exact Conditions.conflict?_eq_some_iff hrule.exceptParamsInAllowed hrule.paramsInAllowed
      position
  have hnone : conflict? r.paramsInAllowed r.exceptParamsInAllowed = none :=
    Option.eq_none_iff_forall_ne_some.2 hno
  constructor
  · rw [assemble_eq_of_calls hr hcalls, hnone]
  · intro hexcept
    obtain ⟨arguments, hallows⟩ := hsatisfiable.2 hnone
    refine ⟨arguments, fun call hcall file hfile => ?_⟩
    rw [← hcall] at hallows
    exact judge_of_allowsArguments hallows hexcept hfile

end

/-- Calls of `exec` are allowed in `lib.php` with zero at position 1 and `'y'` at position 3, unless
they pass what is forbidden. -/
def allowingZeroAndY (forbidden : Conditions) : List Clause :=
  [.call ⟨"exec", .named "exec"⟩,
    .allowIn ⟨"lib.php", "/lib.php", "/lib.php".toList.map .literal⟩,
    .paramsInAllowed .zeroAndY, .exceptParamsInAllowed forbidden]

/-- The rule of `allowingZeroAndY`, refused or not. -/
def ruleOfZeroAndY (forbidden : Conditions) : Rule :=
  (allowingZeroAndY forbidden).foldl Rule.extend (.blank .function)

theorem calls_ruleOfZeroAndY (forbidden : Conditions) : (ruleOfZeroAndY forbidden).calls ≠ [] :=
  List.cons_ne_nil _ _

theorem isBuilt_allowingZeroAndY {forbidden : Conditions} (h : forbidden.Built) :
    ∀ clause ∈ allowingZeroAndY forbidden, clause.IsBuilt := by
  simp [allowingZeroAndY, Clause.IsBuilt, Conditions.built_zeroAndY, h]

/-- Minus zero is zero, so forbidding it leaves no arguments. Forbidding null and `'n'` instead
leaves some. -/
theorem assemble_conflict_iff_unsatisfiable_minusZero :
    ∃ clash other : Conditions, clash = ⟨[(1, .float (-0.0)), (3, .text "y")]⟩ ∧
      other = ⟨[(1, .null), (3, .text "n")]⟩ ∧
      assemble .function (allowingZeroAndY clash) = .error (.conflictingParams 1) ∧
      (¬ ∃ arguments, (ruleOfZeroAndY clash).AllowsArguments arguments) ∧
      assemble .function (allowingZeroAndY other) = .ok (ruleOfZeroAndY other) ∧
      ∃ arguments, ∀ call : CallSite, call.arguments = arguments →
        (ruleOfZeroAndY other).judge call "/lib.php" = .exempt .allowedPath := by
  have hclash : Conditions.Built ⟨[(1, .float (-0.0)), (3, .text "y")]⟩ := by
    have hone : Conditions.empty.insert 1 (.float (-0.0)) = .ok ⟨[(1, .float (-0.0))]⟩ := rfl
    have htwo : Conditions.insert ⟨[(1, .float (-0.0))]⟩ 3 (.text "y") =
        .ok ⟨[(1, .float (-0.0)), (3, .text "y")]⟩ := rfl
    exact (Conditions.Built.empty.insert hone).insert htwo
  have hother : Conditions.Built ⟨[(1, .null), (3, .text "n")]⟩ := by
    have hone : Conditions.empty.insert 1 .null = .ok ⟨[(1, .null)]⟩ := rfl
    have htwo : Conditions.insert ⟨[(1, .null)]⟩ 3 (.text "n") =
        .ok ⟨[(1, .null), (3, .text "n")]⟩ := rfl
    exact (Conditions.Built.empty.insert hone).insert htwo
  have hconflict : assemble .function (allowingZeroAndY ⟨[(1, .float (-0.0)), (3, .text "y")]⟩) =
      .error (.conflictingParams 1) := by decide +kernel
  obtain ⟨hrefused, -, -⟩ := assemble_conflict_iff_unsatisfiable rfl (calls_ruleOfZeroAndY _)
    (isBuilt_allowingZeroAndY hclash) Conditions.not_isNaN_zeroAndY
  obtain ⟨-, -, haccepted⟩ := assemble_conflict_iff_unsatisfiable rfl (calls_ruleOfZeroAndY _)
    (isBuilt_allowingZeroAndY hother) Conditions.not_isNaN_zeroAndY
  have hok : assemble .function (allowingZeroAndY ⟨[(1, .null), (3, .text "n")]⟩) =
      .ok (ruleOfZeroAndY ⟨[(1, .null), (3, .text "n")]⟩) := by decide +kernel
  have hnone : ∀ position, assemble .function (allowingZeroAndY ⟨[(1, .null), (3, .text "n")]⟩) ≠
      .error (.conflictingParams position) := by
    intro position
    rw [hok]
    exact nofun
  obtain ⟨-, hexempts⟩ := haccepted hnone
  obtain ⟨arguments, hexempt⟩ := hexempts rfl
  refine ⟨_, _, rfl, rfl, hconflict, hrefused.1 ⟨1, hconflict⟩, hok, arguments, ?_⟩
  intro call hcall
  exact hexempt call hcall "/lib.php" ⟨_, List.mem_cons_self, by decide +kernel⟩

end Rule

end CallPolicy
