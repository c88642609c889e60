import CallPolicy.Proofs.LoadedConditions
import CallPolicy.Proofs.SatisfiableRules
import CallPolicy.Proofs.WildcardPatterns

namespace CallPolicy

/-!
# Well-formed rules

Conditions grow by attempts to insert, of which some are refused. Rules are assembled from clauses,
or loaded from a configuration. This file says which conditions and rules can come about.

* `Conditions.attempt`, `Conditions.ofAttempts` — conditions after attempts to insert.
* `Conditions.snd_tryInsert_of_error` — an attempt that fails leaves them as they were.
* `Conditions.get?_ofAttempts` — they hold at each position what was last accepted for it.
* `Conditions.WellFormed` — positions in strict order that count from 1, with known literals.
* `Conditions.built_iff_wellFormed`, `Conditions.built_iff_exists_attempts` — exactly such
  conditions come about.
* `Rule.WellFormed` — a rule that has a name and call patterns, and conditions that are well formed
  and free of conflicts.
* `Rule.assemble_eq_ok_iff_wellFormed` — of what can be made, clauses make exactly the rules that
  are well formed.
* `reachable_rules_wellFormed` — so every rule that is made or loaded is well formed.
-/

namespace Conditions

/-! ### Attempts to insert -/

/-- The conditions after an attempt to insert, accepted or not. -/
def attempt (c : Conditions) (entry : Nat × Argument) : Conditions :=
  (c.tryInsert entry.1 entry.2).2

/-- The conditions after attempts to insert, from none. -/
def ofAttempts (attempts : List (Nat × Argument)) : Conditions :=
  attempts.foldl attempt .empty

/-- The position counts from 1, and the value is known. -/
def isInsertable (entry : Nat × Argument) : Bool :=
  entry.1 ≠ 0 && entry.2.isKnown

/-- The value of the last attempt for the position that could be accepted. -/
def lastInsertable? (attempts : List (Nat × Argument)) (position : Nat) : Option Argument :=
  (attempts.reverse.find? fun entry => isInsertable entry && entry.1 == position).map (·.2)

theorem isInsertable_iff (entry : Nat × Argument) :
    isInsertable entry = true ↔ entry.1 ≠ 0 ∧ entry.2.isKnown = true := by
  simp [isInsertable]

/-- An attempt fails exactly at position 0 or for an unknown value. -/
theorem exists_tryInsert_eq_error_iff (c : Conditions) (position : Nat) (value : Argument) :
    (∃ e, (c.tryInsert position value).1 = .error e) ↔ position = 0 ∨ value = .unknown := by
  rcases c.tryInsert_cases position value with
    ⟨hposition, hknown, htry⟩ | ⟨hposition, htry⟩ | ⟨-, hvalue, htry⟩
  · rw [htry]
    refine iff_of_false nofun fun h => ?_
    rcases h with hzero | hvalue
    · exact hposition hzero
    · exact value.isKnown_iff.1 hknown hvalue
  · rw [htry]
    exact iff_of_true ⟨_, rfl⟩ (Or.inl hposition)
  · rw [htry]
    exact iff_of_true ⟨_, rfl⟩ (Or.inr hvalue)

/-- An attempt that fails leaves the conditions as they were. -/
theorem snd_tryInsert_of_error {c : Conditions} {position : Nat} {value : Argument}
    {e : ConditionError} (h : (c.tryInsert position value).1 = .error e) :
    (c.tryInsert position value).2 = c := by
  rcases c.tryInsert_cases position value with ⟨-, -, htry⟩ | ⟨-, htry⟩ | ⟨-, -, htry⟩
  · rw [htry] at h
    cases h
  · rw [htry]
  · rw [htry]

theorem attempt_eq_ite (c : Conditions) (entry : Nat × Argument) :
    c.attempt entry = if isInsertable entry then ⟨put entry.1 entry.2 c.entries⟩ else c := by
  unfold attempt
  rcases c.tryInsert_cases entry.1 entry.2 with
    ⟨hposition, hknown, htry⟩ | ⟨hposition, htry⟩ | ⟨-, hvalue, htry⟩
  · rw [htry, if_pos ((isInsertable_iff entry).2 ⟨hposition, hknown⟩)]
  · rw [htry, if_neg fun h => ((isInsertable_iff entry).1 h).1 hposition]
  · rw [htry, if_neg fun h => entry.2.isKnown_iff.1 ((isInsertable_iff entry).1 h).2 hvalue]

@[simp] theorem ofAttempts_concat (attempts : List (Nat × Argument)) (entry : Nat × Argument) :
    ofAttempts (attempts ++ [entry]) = (ofAttempts attempts).attempt entry :=
  List.foldl_concat ..

/-- What was accepted stands at its position, and all else where it stood. -/
theorem get?_attempt (c : Conditions) (entry : Nat × Argument) (position : Nat) :
    (c.attempt entry).get? position =
      if isInsertable entry && entry.1 == position then some entry.2 else c.get? position := by
  rw [attempt_eq_ite]
  cases isInsertable entry with
  | false => rfl
  | true =>
    rw [if_pos rfl, get?, lookup_put, Bool.true_and]
    refine if_congr ?_ rfl rfl
    rw [beq_iff_eq]
    exact eq_comm

/-- At each position stands what was last accepted for it. -/
theorem get?_ofAttempts (attempts : List (Nat × Argument)) (position : Nat) :
    (ofAttempts attempts).get? position = lastInsertable? attempts position := by
  -- The induction is on the last attempt, which counts before all others.
  induction attempts using List.reverseRecOn with
  | nil => rfl
  | append_singleton attempts entry ih =>
    rw [ofAttempts_concat, get?_attempt, ih, lastInsertable?, lastInsertable?, List.reverse_concat,
      List.find?_cons]
    cases isInsertable entry && entry.1 == position <;> rfl

/-- Attempts that are refused may be left out, wherever they stand. -/
theorem ofAttempts_filter (attempts : List (Nat × Argument)) :
    ofAttempts (attempts.filter isInsertable) = ofAttempts attempts := by
  induction attempts using List.reverseRecOn with
  | nil => rfl
  | append_singleton attempts entry ih =>
    rw [ofAttempts_concat, attempt_eq_ite, List.filter_append, List.filter_singleton]
    cases h : isInsertable entry with
    | true => rw [cond_true, ofAttempts_concat, attempt_eq_ite, h, ih]
    | false =>
      rw [cond_false, List.append_nil, ih]
      rfl

/-! ### Well-formed conditions -/

/-- The positions are in strict order and count from 1, and all literals are known. -/
structure WellFormed (c : Conditions) : Prop where
  sorted : c.positions.Pairwise (· < ·)
  positive : ∀ entry ∈ c.entries, 1 ≤ entry.1
  known : ∀ entry ∈ c.entries, entry.2 ≠ .unknown

theorem Built.wellFormed {c : Conditions} (h : c.Built) : c.WellFormed where
  sorted := h.positions_sorted
  positive := fun _ hentry => Nat.one_le_iff_ne_zero.2 (h.position_ne_zero hentry)
  known := fun entry hentry => entry.2.isKnown_iff.1 (h.isKnown hentry)

theorem Built.attempt {c : Conditions} (h : c.Built) (entry : Nat × Argument) :
    (c.attempt entry).Built := by
  unfold Conditions.attempt
  rcases c.tryInsert_cases entry.1 entry.2 with ⟨-, -, htry⟩ | ⟨-, htry⟩ | ⟨-, -, htry⟩
  · have hinsert := insert_eq_ok_iff_tryInsert.2 htry
    rw [htry]
    exact h.insert hinsert
  · rw [htry]
    exact h
  · rw [htry]
    exact h

theorem built_ofAttempts (attempts : List (Nat × Argument)) : (ofAttempts attempts).Built :=
  List.foldlRecOn attempts Conditions.attempt .empty fun _ h entry _ => h.attempt entry

/-- Behind smaller positions, a new one is the last. -/
theorem put_of_forall_lt {entries : List (Nat × Argument)} {position : Nat} (value : Argument)
    (h : ∀ entry ∈ entries, entry.1 < position) :
    put position value entries = entries ++ [(position, value)] := by
  induction entries with
  | nil => rfl
  | cons first rest ih =>
    obtain ⟨hfirst, hrest⟩ := List.forall_mem_cons.1 h
    unfold put
    rw [if_neg (by omega), if_neg (by omega), ih hrest]
    rfl

/-- Well-formed conditions come about by inserting their own entries in order. -/
theorem WellFormed.ofAttempts_entries {entries : List (Nat × Argument)}
    (h : WellFormed ⟨entries⟩) : ofAttempts entries = ⟨entries⟩ := by
  induction entries using List.reverseRecOn with
  | nil => rfl
  | append_singleton front entry ih =>
    have hsorted := h.sorted
    rw [positions, List.map_append, List.pairwise_append] at hsorted
    have hfront : WellFormed ⟨front⟩ :=
      ⟨hsorted.1, fun other hother => h.positive other (List.mem_append_left _ hother),
        fun other hother => h.known other (List.mem_append_left _ hother)⟩
    have hinsertable : isInsertable entry = true := by
      have hpositive := h.positive entry List.mem_concat_self
      have hknown := h.known entry List.mem_concat_self
      exact (isInsertable_iff entry).2 ⟨by omega, entry.2.isKnown_iff.2 hknown⟩
    have hlast : ∀ other ∈ front, other.1 < entry.1 := fun other hother =>
      hsorted.2.2 other.1 (List.mem_map_of_mem hother) entry.1 (List.mem_singleton_self _)
    rw [ofAttempts_concat, ih hfront, attempt_eq_ite, if_pos hinsertable,
      put_of_forall_lt entry.2 hlast]

/-- The conditions that insertions lead to are those that attempts lead to. -/
theorem built_iff_exists_attempts (c : Conditions) :
    c.Built ↔ ∃ attempts, ofAttempts attempts = c := by
  constructor
  · intro h
    exact ⟨c.entries, h.wellFormed.ofAttempts_entries⟩
  · rintro ⟨attempts, rfl⟩
    exact built_ofAttempts attempts

/-- They are all conditions that are well formed. -/
theorem built_iff_wellFormed (c : Conditions) : c.Built ↔ c.WellFormed := by
  constructor
  · exact Built.wellFormed
  · intro h
    have hentries : ofAttempts c.entries = c := h.ofAttempts_entries
    exact hentries ▸ built_ofAttempts c.entries

/-- The entries of a table are inserted one by one. -/
theorem built_of_ofTable {entries : List (String × Datum)} {c : Conditions}
    (h : ofTable entries = .ok c) : c.Built := by
  have hrun : ∀ (rest : List (String × Datum)) (start : Conditions), start.Built →
      rest.foldlM insertWritten start = .ok c → c.Built := by
    intro rest
    induction rest with
    | nil =>
      rintro start hstart ⟨⟩
      exact hstart
    | cons entry rest ih =>
      intro start hstart hfold
      obtain ⟨next, hnext, hrest⟩ := exists_of_bind_eq_ok hfold
      obtain ⟨position, literal, -, -, hinsert⟩ := insertWritten_eq_ok hnext
      exact ih next (hstart.insert hinsert) hrest
  exact hrun _ _ .empty h

end Conditions

/-! ### Well-formed rules -/

theorem Clause.ReadAt.isBuilt {root : ProjectRoot} {c : Clause} (h : c.ReadAt root) :
    c.IsBuilt := by
  cases c with
  | paramsInAllowed c | exceptParamsInAllowed c | paramsAnywhere c | exceptParams c =>
    obtain ⟨entries, hentries⟩ := h
    exact Conditions.built_of_ofTable hentries
  | _ => trivial

/-- An accepted pattern is not empty. -/
theorem SymbolPattern.IsAccepted.text_ne {p : SymbolPattern} (h : p.IsAccepted) : p.text ≠ "" := by
  obtain ⟨text, htext⟩ := h
  obtain ⟨scope, member, hp⟩ := compile_eq_ok htext
  intro hempty
  have hnonempty := isEmpty_of_splitName hp.split_eq hp.member_ne
  rw [hempty] at hnonempty
  cases hnonempty

namespace Rule

/-- The rule has call patterns and a name, which is the text of the first of them; its conditions
are well formed, and they do not require and forbid one literal at one position. -/
structure WellFormed (r : Rule) : Prop where
  named : ∃ first rest, r.calls = first :: rest ∧ r.name = first.text
  name_ne : r.name ≠ ""
  conditions : ∀ table : ConditionTable, (table.loaded r).WellFormed
  noConflict : ∀ position, ¬ r.paramsInAllowed.ConflictsAt r.exceptParamsInAllowed position

theorem IsBuilt.loaded {r : Rule} (h : r.IsBuilt) (table : ConditionTable) :
    (table.loaded r).Built := by
  cases table with
  | paramsInAllowed => exact h.paramsInAllowed
  | exceptParamsInAllowed => exact h.exceptParamsInAllowed
  | paramsAnywhere => exact h.paramsAnywhere
  | exceptParams => exact h.exceptParams

/-- A rule has no fault exactly if it has call patterns and no conflict. -/
theorem fault?_eq_none_iff {r : Rule} (hforbidden : r.exceptParamsInAllowed.Built) :
    r.fault? = none ↔ r.calls ≠ [] ∧
      ∀ position, ¬ r.paramsInAllowed.ConflictsAt r.exceptParamsInAllowed position := by
  rw [← Conditions.conflict?_eq_none_iff hforbidden]
  unfold fault?
  cases r.calls with
  | nil => simp
  | cons first rest => simp

/-- With what can be made for its parts, a rule has no fault exactly if it is well formed. -/
theorem fault?_eq_none_iff_wellFormed {r : Rule} (hbuilt : r.IsBuilt)
    (hcalls : ∀ p ∈ r.calls, p.IsAccepted) : r.fault? = none ↔ r.WellFormed := by
  rw [fault?_eq_none_iff hbuilt.exceptParamsInAllowed]
  constructor
  · rintro ⟨hne, hno⟩
    obtain ⟨first, rest, hfirst⟩ := List.exists_cons_of_ne_nil hne
    have hname : r.name = first.text := by rw [name, hfirst]
    have haccepted : first.IsAccepted := hcalls first (by simp [hfirst])
    exact ⟨⟨first, rest, hfirst, hname⟩, hname ▸ haccepted.text_ne,
      fun table => (hbuilt.loaded table).wellFormed, hno⟩
  · intro h
    obtain ⟨first, rest, hfirst, -⟩ := h.named
    exact ⟨hfirst ▸ List.cons_ne_nil first rest, h.noConflict⟩

theorem mem_calls_extend {r : Rule} {c : Clause} {p : SymbolPattern}
    (h : p ∈ (r.extend c).calls) : p ∈ r.calls ∨ c = .call p := by
  cases c with
  | call q =>
    rcases List.mem_append.1 h with hmem | hmem
    · exact Or.inl hmem
    · exact Or.inr (by rw [List.mem_singleton.1 hmem])
  | _ => exact Or.inl h

/-- The call patterns of a rule were named by its clauses. -/
theorem call_mem_of_mem_calls (kind : RuleKind) (clauses : List Clause) :
    ∀ p ∈ (clauses.foldl extend (blank kind)).calls, .call p ∈ clauses := by
  have hblank : ∀ p ∈ (blank kind).calls, .call p ∈ clauses := List.forall_mem_nil _
  have hextend : ∀ r : Rule, (∀ p ∈ r.calls, .call p ∈ clauses) → ∀ c ∈ clauses,
      ∀ p ∈ (r.extend c).calls, .call p ∈ clauses := by
    intro r hr c hc p hp
    rcases mem_calls_extend hp with hmem | rfl
    · exact hr p hmem
    · exact hc
  exact List.foldlRecOn clauses extend hblank hextend

/-- Clauses with conditions that insertions lead to and with accepted call patterns make their rule
exactly if it is well formed. -/
theorem assemble_eq_ok_iff_wellFormed {kind : RuleKind} {clauses : List Clause}
    (hbuilt : ∀ c ∈ clauses, c.IsBuilt) (hcalls : ∀ p, .call p ∈ clauses → p.IsAccepted)
    (r : Rule) :
    assemble kind clauses = .ok r ↔ clauses.foldl extend (blank kind) = r ∧ r.WellFormed := by
  rw [assemble_eq_ok_iff]
  refine and_congr_right ?_
  rintro rfl
  exact fault?_eq_none_iff_wellFormed (isBuilt_of_clauses hbuilt kind) fun p hp =>
    hcalls p (call_mem_of_mem_calls kind clauses p hp)

end Rule

theorem RuleEntry.wellFormed_of_rule {root : ProjectRoot} {kind : RuleKind} {e : RuleEntry}
    {r : Rule} (h : e.rule root kind = .ok r) : r.WellFormed := by
  obtain ⟨calls, clauses, hclauses, hmade⟩ := exists_assemble_of_rule h
  have hread := readAt_of_readClauses hclauses
  have hbuilt : ∀ c ∈ clauses, c.IsBuilt := fun c hc => (hread c hc).isBuilt
  have hcalls : ∀ p, .call p ∈ clauses → p.IsAccepted := fun p hp => hread (.call p) hp
  exact ((Rule.assemble_eq_ok_iff_wellFormed hbuilt hcalls r).1 hmade).2

/-- All rules of a configuration that is loaded are well formed. -/
theorem wellFormed_of_loadRules {root : ProjectRoot} {text : String} {rules : RuleSet}
    (h : loadRules root text = .ok rules) : ∀ r ∈ rules.rules, r.WellFormed := by
  intro r hr
  obtain ⟨e, kind, hrule⟩ := exists_rule_of_loadRules h hr
  exact e.wellFormed_of_rule hrule

/-- **Reachable rules.** After any attempts to insert, one more fails exactly at position 0 or for
an unknown value, and a failed one leaves the conditions as they were; whatever it comes to, the
conditions that it leaves are those that the next attempt starts from. Failed attempts may be left
out, and at each position stands what was last accepted for it. The conditions that are reached so
are those that are well formed. Clauses with such conditions and with accepted call patterns make
their rule exactly if it is well formed, and all rules of a configuration that is loaded are. -/
theorem reachable_rules_wellFormed :
    (∀ (attempts : List (Nat × Argument)) (position : Nat) (value : Argument),
      ((∃ e, ((Conditions.ofAttempts attempts).tryInsert position value).1 = .error e) ↔
        position = 0 ∨ value = .unknown) ∧
      (∀ e, ((Conditions.ofAttempts attempts).tryInsert position value).1 = .error e →
        ((Conditions.ofAttempts attempts).tryInsert position value).2 =
          Conditions.ofAttempts attempts) ∧
      Conditions.ofAttempts (attempts ++ [(position, value)]) =
        ((Conditions.ofAttempts attempts).tryInsert position value).2 ∧
      (∀ e, (Conditions.ofAttempts attempts).insert position value = .error e ↔
        ((Conditions.ofAttempts attempts).tryInsert position value).1 = .error e) ∧
      (∀ c, (Conditions.ofAttempts attempts).insert position value = .ok c ↔
        (Conditions.ofAttempts attempts).tryInsert position value = (.ok (), c)) ∧
      Conditions.ofAttempts (attempts.filter Conditions.isInsertable) =
        Conditions.ofAttempts attempts ∧
      (Conditions.ofAttempts attempts).get? position =
        Conditions.lastInsertable? attempts position) ∧
    (∀ c : Conditions, (c.Built ↔ ∃ attempts, Conditions.ofAttempts attempts = c) ∧
      (c.Built ↔ c.WellFormed)) ∧
    (∀ (kind : RuleKind) (clauses : List Clause) (r : Rule), (∀ c ∈ clauses, c.IsBuilt) →
      (∀ p, .call p ∈ clauses → p.IsAccepted) →
      (Rule.assemble kind clauses = .ok r ↔
        clauses.foldl Rule.extend (.blank kind) = r ∧ r.WellFormed)) ∧
    ∀ (root : ProjectRoot) (text : String) (rules : RuleSet), loadRules root text = .ok rules →
      ∀ r ∈ rules.rules, r.WellFormed := by
  refine ⟨fun attempts position value => ⟨?_, fun e h => ?_, ?_, fun e => ?_, fun c => ?_, ?_, ?_⟩,
    fun c => ?_, fun kind clauses r hbuilt hcalls => ?_,
    fun root text rules h => wellFormed_of_loadRules h⟩
  · exact Conditions.exists_tryInsert_eq_error_iff _ position value
  · exact Conditions.snd_tryInsert_of_error h
  · exact Conditions.ofAttempts_concat attempts (position, value)
  · exact Conditions.insert_eq_error_iff_tryInsert
  · exact Conditions.insert_eq_ok_iff_tryInsert
  · exact Conditions.ofAttempts_filter attempts
  · exact Conditions.get?_ofAttempts attempts position
  · exact ⟨c.built_iff_exists_attempts, c.built_iff_wellFormed⟩
  · exact Rule.assemble_eq_ok_iff_wellFormed hbuilt hcalls r

/-- Five attempts. The second and the third are refused, and the fourth replaces the first. -/
def fiveAttempts : List (Nat × Argument) :=
  [(2, .text "y"), (0, .null), (1, .unknown), (2, .int 5), (1, .null)]

/-- Calls of `Foo::bar` are allowed with what the five attempts lead to, but not with what is
forbidden. -/
def allowingFiveAttempts (forbidden : Conditions) : List Clause :=
  [.call ⟨"Foo::bar", .named "foo::bar"⟩, .paramsInAllowed ⟨[(1, .null), (2, .int 5)]⟩,
    .exceptParamsInAllowed forbidden]

/-- The five attempts leave two conditions. Their rule is well formed if nothing is forbidden, but
not if one of them is; and the rule of a configuration is well formed. -/
theorem reachable_rules_wellFormed_fiveAttempts :
    Conditions.ofAttempts fiveAttempts = ⟨[(1, .null), (2, .int 5)]⟩ ∧
      (Conditions.tryInsert ⟨[(2, .text "y")]⟩ 0 .null).1 = .error (.invalidPosition "0") ∧
      (Conditions.tryInsert ⟨[(2, .text "y")]⟩ 0 .null).2 = ⟨[(2, .text "y")]⟩ ∧
      (Conditions.ofAttempts fiveAttempts).get? 2 = some (.int 5) ∧
      (∃ r, Rule.assemble .method (allowingFiveAttempts .empty) = .ok r ∧ r.WellFormed) ∧
      (∃ fault, Rule.assemble .method (allowingFiveAttempts ⟨[(2, .int 5)]⟩) = .error fault) ∧
      ¬ ((allowingFiveAttempts ⟨[(2, .int 5)]⟩).foldl Rule.extend (.blank .method)).WellFormed ∧
      ∃ rules, loadRules (.locate "/" "/srv") spelledPositions = .ok rules ∧
        rules.rules.length = 1 ∧ ∀ r ∈ rules.rules, r.WellFormed := by
  obtain ⟨hattempts, hreached, hassemble, hloaded⟩ := reachable_rules_wellFormed
  obtain ⟨-, hrefused, -⟩ := hattempts [(2, .text "y")] 0 .null
  obtain ⟨-, -, -, -, -, -, hget⟩ := hattempts fiveAttempts 2 .null
  have hfive : Conditions.ofAttempts fiveAttempts = ⟨[(1, .null), (2, .int 5)]⟩ := rfl
  have hclauses : ∀ forbidden : Conditions, forbidden.Built →
      ∀ c ∈ allowingFiveAttempts forbidden, c.IsBuilt := by
    intro forbidden hforbidden
    have hallowed := (hreached ⟨[(1, .null), (2, .int 5)]⟩).1.2 ⟨fiveAttempts, hfive⟩
    simp [allowingFiveAttempts, Clause.IsBuilt, hallowed, hforbidden]
  have hcalls : ∀ (forbidden : Conditions) p, .call p ∈ allowingFiveAttempts forbidden →
      p.IsAccepted := by
    intro forbidden p hp
    have hpattern : p = ⟨"Foo::bar", .named "foo::bar"⟩ := by
      simpa [allowingFiveAttempts] using hp
    exact ⟨"Foo::bar", hpattern ▸ by decide +kernel⟩
  have hclash : Conditions.Built ⟨[(2, .int 5)]⟩ := (hreached _).1.2 ⟨[(2, .int 5)], rfl⟩
  have hfault : Rule.assemble .method (allowingFiveAttempts ⟨[(2, .int 5)]⟩) =
      .error (.conflictingParams 2) := by decide +kernel
  have hnot : ¬ ((allowingFiveAttempts ⟨[(2, .int 5)]⟩).foldl Rule.extend
      (.blank .method)).WellFormed := by
    intro hwell
    have hok := (hassemble .method _ _ (hclauses _ hclash) (hcalls _)).2 ⟨rfl, hwell⟩
    rw [hfault] at hok
    cases hok
  refine ⟨hfive, rfl, hrefused _ rfl, hget, ⟨_, rfl, ?_⟩, ⟨_, hfault⟩, hnot, ?_⟩
  · exact ((hassemble .method _ _ (hclauses _ .empty) (hcalls _)).1 rfl).2
  · have hcount : (loadRules (.locate "/" "/srv") spelledPositions).map (·.rules.length) =
        .ok 1 := by decide +kernel
    obtain ⟨rules, hload, hlength⟩ := exists_of_map_eq_ok hcount
    exact ⟨rules, hload, hlength.symm, hloaded _ _ _ hload⟩

end CallPolicy
