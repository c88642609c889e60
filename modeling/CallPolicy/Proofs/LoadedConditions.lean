import CallPolicy.Proofs.Clauses
import CallPolicy.Proofs.ConditionTables

namespace CallPolicy

/-!
# The conditions of loaded rules

A rule that is loaded has the conditions of the four tables of its entry. This file follows the
tables through the loading, and says when a configuration loses none of its conditions.

* `ConditionTable` — the four tables of an entry, as written and as loaded.
* `RuleEntry.ofTable_of_rule` — a rule has the conditions of the tables of its entry.
* `RuleDocument.forall₂_of_ruleSet` — the rules of a set come from the entries of the
  configuration, in order.
* `loadRules_keeps_iff` — no condition of a configuration is lost exactly if the keys of its tables
  name different positions.
* `not_loadRules_keeps` — two keys for one position are accepted.
-/

/-! ### The tables of an entry -/

/-- The clause sets a table of conditions. -/
def Clause.isTable : Clause → Bool
  | .paramsInAllowed _ | .exceptParamsInAllowed _ | .paramsAnywhere _ | .exceptParams _ => true
  | _ => false

/-- A table of conditions of a rule. -/
inductive ConditionTable where
  | paramsInAllowed
  | exceptParamsInAllowed
  | paramsAnywhere
  | exceptParams
  deriving DecidableEq, Repr

namespace ConditionTable

/-- The name of the table in a configuration. -/
def name : ConditionTable → String
  | paramsInAllowed => "allow-params-in-allowed"
  | exceptParamsInAllowed => "allow-except-params-in-allowed"
  | paramsAnywhere => "allow-params-anywhere"
  | exceptParams => "allow-except-params"

/-- The table as written. -/
def written : ConditionTable → RuleEntry → List (String × Datum)
  | paramsInAllowed, e => e.paramsInAllowed
  | exceptParamsInAllowed, e => e.exceptParamsInAllowed
  | paramsAnywhere, e => e.paramsAnywhere
  | exceptParams, e => e.exceptParams

/-- The conditions of a rule that come from the table. -/
def loaded : ConditionTable → Rule → Conditions
  | paramsInAllowed, r => r.paramsInAllowed
  | exceptParamsInAllowed, r => r.exceptParamsInAllowed
  | paramsAnywhere, r => r.paramsAnywhere
  | exceptParams, r => r.exceptParams

/-- The clause that the table is read as. -/
def clause : ConditionTable → Conditions → Clause
  | paramsInAllowed => .paramsInAllowed
  | exceptParamsInAllowed => .exceptParamsInAllowed
  | paramsAnywhere => .paramsAnywhere
  | exceptParams => .exceptParams

/-- The conditions that a clause sets for the table. -/
def conditionsOf? : ConditionTable → Clause → Option Conditions
  | paramsInAllowed, .paramsInAllowed c => some c
  | exceptParamsInAllowed, .exceptParamsInAllowed c => some c
  | paramsAnywhere, .paramsAnywhere c => some c
  | exceptParams, .exceptParams c => some c
  | _, _ => none

/-- The clause of a table sets its conditions, that of another table nothing. -/
theorem conditionsOf?_clause (table other : ConditionTable) (c : Conditions) :
    table.conditionsOf? (other.clause c) = if other = table then some c else none := by
  cases table <;> cases other <;> rfl

/-- Only the clause of a table sets conditions. -/
theorem conditionsOf?_eq_none {c : Clause} (h : c.isTable = false) (table : ConditionTable) :
    table.conditionsOf? c = none := by
  cases c with
  | paramsInAllowed | exceptParamsInAllowed | paramsAnywhere | exceptParams => cases h
  | _ => cases table <;> rfl

theorem eq_of_conditionsOf?_clause {table other : ConditionTable} {c d : Conditions}
    (h : table.conditionsOf? (other.clause c) = some d) : other = table ∧ c = d := by
  rw [conditionsOf?_clause] at h
  split at h
  · rename_i hsame
    exact ⟨hsame, Option.some.inj h⟩
  · cases h

/-- A clause for the table sets its conditions, any other leaves them. -/
theorem loaded_extend (table : ConditionTable) (r : Rule) (c : Clause) :
    table.loaded (r.extend c) = (table.conditionsOf? c).getD (table.loaded r) := by
  cases table <;> cases c <;> rfl

/-- Where all clauses for the table set the same conditions, and there is one, these are loaded. -/
theorem loaded_foldl_extend {table : ConditionTable} {conditions : Conditions}
    {clauses : List Clause} {r : Rule}
    (hsame : ∀ c ∈ clauses, ∀ d, table.conditionsOf? c = some d → d = conditions)
    (hset : table.loaded r = conditions ∨ ∃ c ∈ clauses, (table.conditionsOf? c).isSome) :
    table.loaded (clauses.foldl Rule.extend r) = conditions := by
  induction clauses generalizing r with
  | nil => exact hset.resolve_right (by simp)
  | cons c rest ih =>
    refine ih (fun d hd => hsame d (List.mem_cons_of_mem c hd)) ?_
    rw [loaded_extend]
    cases hc : table.conditionsOf? c with
    | some d => exact Or.inl (hsame c List.mem_cons_self d hc)
    | none =>
      -- A clause for something else leaves both ways open.
      rw [List.exists_mem_cons_iff, hc] at hset
      exact hset.imp_right fun hor => hor.resolve_left Bool.false_ne_true

end ConditionTable

/-! ### The tables among the clauses of an entry -/

namespace RuleEntry

/-- Each of the clauses of an entry comes from one of its tables, or sets none. -/
theorem isTable_eq_false_or_eq_tableClause {root : ProjectRoot} {calls : List String}
    {e : RuleEntry} {w : WrittenClause} (hw : w ∈ e.clauses root calls) :
    (∀ c, w.clause = .ok c → c.isTable = false) ∨
      ∃ table : ConditionTable, w = tableClause table.name table.clause (table.written e) := by
  have hready : ∀ c : Clause, c.isTable = false →
      ∀ c', (readyClause c).clause = .ok c' → c'.isTable = false := by
    intro c hc c' hc'
    exact Except.ok.inj hc' ▸ hc
  have hpattern : ∀ list clause texts, (∀ p, (clause p : Clause).isTable = false) →
      w ∈ listClauses list (patternClause clause) texts →
      ∀ c, w.clause = .ok c → c.isTable = false := by
    intro list clause texts hclause hmem c hc
    obtain ⟨text, -, hread⟩ := listClauses_eq_ok hmem hc
    obtain ⟨p, -, rfl⟩ := patternClause_eq_ok hread
    exact hclause p
  have hglob : ∀ list clause texts, (∀ g, (clause g : Clause).isTable = false) →
      w ∈ listClauses list (globClause root clause) texts →
      ∀ c, w.clause = .ok c → c.isTable = false := by
    intro list clause texts hclause hmem c hc
    obtain ⟨text, -, hread⟩ := listClauses_eq_ok hmem hc
    obtain ⟨g, -, rfl⟩ := globClause_eq_ok hread
    exact hclause g
  -- The parts are taken in the order in which an entry lists them.
  simp only [clauses, List.mem_append, List.mem_cons, List.not_mem_nil, or_false, List.mem_map]
    at hw
  rcases hw with (((((((((rfl | hw) | hw) | hw) | hw) | hw) | hw) |
    (rfl | rfl | rfl | rfl)) | ⟨text, -, rfl⟩) | ⟨text, -, rfl⟩) | rfl
  · exact Or.inl (hready _ rfl)
  · exact Or.inl (hpattern _ _ _ (fun _ => rfl) hw)
  · exact Or.inl (hpattern _ _ _ (fun _ => rfl) hw)
  · exact Or.inl (hglob _ _ _ (fun _ => rfl) hw)
  · exact Or.inl (hglob _ _ _ (fun _ => rfl) hw)
  · exact Or.inl (hpattern _ _ _ (fun _ => rfl) hw)
  · exact Or.inl (hpattern _ _ _ (fun _ => rfl) hw)
  · exact Or.inr ⟨.paramsInAllowed, rfl⟩
  · exact Or.inr ⟨.exceptParamsInAllowed, rfl⟩
  · exact Or.inr ⟨.paramsAnywhere, rfl⟩
  · exact Or.inr ⟨.exceptParams, rfl⟩
  · exact Or.inl (hready _ rfl)
  · exact Or.inl (hready _ rfl)
  · refine Or.inl fun c hc => ?_
    obtain ⟨severity, -, rfl⟩ := severityClause_eq_ok hc
    rfl

theorem tableClause_mem_clauses (root : ProjectRoot) (calls : List String) (e : RuleEntry)
    (table : ConditionTable) :
    tableClause table.name table.clause (table.written e) ∈ e.clauses root calls := by
  cases table <;> simp [clauses, ConditionTable.name, ConditionTable.clause,
    ConditionTable.written]

/-- A rule that is loaded has the conditions of the tables of its entry. -/
theorem ofTable_of_rule {root : ProjectRoot} {kind : RuleKind} {e : RuleEntry} {r : Rule}
    (h : e.rule root kind = .ok r) (table : ConditionTable) :
    Conditions.ofTable (table.written e) = .ok (table.loaded r) := by
  obtain ⟨calls, clauses, hclauses, rfl⟩ := rule_eq_ok h
  have hread := forall₂_of_readClauses hclauses
  -- The table was read, or there would be no rule.
  obtain ⟨c, hc, hclause⟩ :=
    exists_mem_of_forall₂ hread (tableClause_mem_clauses root calls e table)
  obtain ⟨conditions, hconditions, rfl⟩ := tableClause_eq_ok hclause
  have hloaded : table.loaded (clauses.foldl Rule.extend (.blank kind)) = conditions := by
    refine ConditionTable.loaded_foldl_extend (fun d hd conditions' hset => ?_)
      (Or.inr ⟨_, hc, by rw [ConditionTable.conditionsOf?_clause, if_pos rfl]; rfl⟩)
    -- Any other clause that sets the table comes from the same table of the entry.
    obtain ⟨w, hw, hwd⟩ := exists_mem_of_forall₂ hread.flip hd
    rcases isTable_eq_false_or_eq_tableClause hw with hnone | ⟨other, rfl⟩
    · rw [ConditionTable.conditionsOf?_eq_none (hnone d hwd)] at hset
      cases hset
    · obtain ⟨found, hfound, rfl⟩ := tableClause_eq_ok hwd
      obtain ⟨rfl, rfl⟩ := ConditionTable.eq_of_conditionsOf?_clause hset
      exact Except.ok.inj (hfound.symm.trans hconditions)
  rw [hloaded]
  exact hconditions

end RuleEntry

/-! ### Configurations -/

namespace RuleDocument

/-- All entries of a configuration, in the order of their rules. -/
def entries (d : RuleDocument) : List RuleEntry :=
  d.methods ++ d.functions

/-- The rules of a set come from the entries of the configuration, in order. -/
theorem forall₂_of_ruleSet {root : ProjectRoot} {d : RuleDocument} {rules : RuleSet}
    (h : d.ruleSet root = .ok rules) :
    List.Forall₂ (fun e r => ∃ kind, e.rule root kind = .ok r) d.entries rules.rules := by
  rw [entries, ← map_entry_placed, List.forall₂_map_left_iff]
  exact (ruleSet_eq_ok_iff.1 h).imp fun p _ hr => ⟨p.kind, hr⟩

end RuleDocument

/-- A configuration that is loaded has one rule for each entry, in order. -/
theorem forall₂_of_loadRules {root : ProjectRoot} {text : String} {rules : RuleSet}
    (h : loadRules root text = .ok rules) :
    ∃ document, (Toml.parse? text.toList >>= RuleDocument.ofDatum?) = some document ∧
      List.Forall₂ (fun e r => ∃ kind, e.rule root kind = .ok r) document.entries rules.rules := by
  unfold loadRules at h
  split at h
  · rename_i document hread
    exact ⟨document, hread, RuleDocument.forall₂_of_ruleSet h⟩
  · cases h

/-- So each of its rules is that of an entry. -/
theorem exists_rule_of_loadRules {root : ProjectRoot} {text : String} {rules : RuleSet}
    (h : loadRules root text = .ok rules) {r : Rule} (hr : r ∈ rules.rules) :
    ∃ (e : RuleEntry) (kind : RuleKind), e.rule root kind = .ok r := by
  obtain ⟨document, -, hrules⟩ := forall₂_of_loadRules h
  obtain ⟨e, -, hrule⟩ := exists_mem_of_forall₂ hrules.flip hr
  exact ⟨e, hrule⟩

/-- **When no condition is lost.** A configuration that is loaded has one rule for each entry. Of
each table of an entry the rule keeps all conditions exactly if the keys name different positions.
In any case the rule holds, at a position that keys name, the literal of the last of these keys in
the order of texts. -/
theorem loadRules_keeps_iff {root : ProjectRoot} {text : String} {rules : RuleSet}
    (h : loadRules root text = .ok rules) :
    ∃ document, (Toml.parse? text.toList >>= RuleDocument.ofDatum?) = some document ∧
      rules.rules.length = document.entries.length ∧
      ∀ (i : Nat) (e : RuleEntry) (r : Rule), document.entries[i]? = some e →
        rules.rules[i]? = some r → ∀ table : ConditionTable,
        ((table.loaded r).Keeps (table.written e) ↔
          ((table.written e).map Conditions.writtenPosition?).Nodup) ∧
        ∀ position, (table.loaded r).get? position =
          Conditions.lastWritten? (Datum.sortByKey (table.written e)) position := by
  obtain ⟨document, hread, hrules⟩ := forall₂_of_loadRules h
  refine ⟨document, hread, hrules.length_eq.symm, fun i e r he hr table => ?_⟩
  obtain ⟨hi, rfl⟩ := List.getElem?_eq_some_iff.1 he
  obtain ⟨hi', rfl⟩ := List.getElem?_eq_some_iff.1 hr
  obtain ⟨kind, hrule⟩ := hrules.get hi hi'
  have htable := RuleEntry.ofTable_of_rule hrule table
  exact ⟨Conditions.keeps_iff htable, Conditions.get?_ofTable htable⟩

/-- The first rule of a configuration and its entry, given which positions a table names there. -/
theorem exists_first_of_loads {root : ProjectRoot} {text : String} {table : ConditionTable}
    {positions : List (Option Nat)} (hloads : (loadRules root text).isOk = true)
    (hread : (Toml.parse? text.toList >>= RuleDocument.ofDatum?).map
      (fun d => d.entries.map fun e => (table.written e).map Conditions.writtenPosition?) =
        some [positions]) :
    ∃ rules document e r, loadRules root text = .ok rules ∧
      (Toml.parse? text.toList >>= RuleDocument.ofDatum?) = some document ∧
      document.entries[0]? = some e ∧ rules.rules[0]? = some r ∧
      (table.written e).map Conditions.writtenPosition? = positions ∧
      Conditions.ofTable (table.written e) = .ok (table.loaded r) := by
  cases hload : loadRules root text with
  | error error =>
    rw [hload] at hloads
    cases hloads
  | ok rules =>
    obtain ⟨document, hdocument, hrules⟩ := forall₂_of_loadRules hload
    rw [hdocument, Option.map_some, Option.some.injEq] at hread
    obtain ⟨e, hentries, hpositions⟩ := List.map_eq_singleton_iff.1 hread
    rw [hentries, List.forall₂_cons_left_iff] at hrules
    obtain ⟨r, more, ⟨kind, hrule⟩, -, hmade⟩ := hrules
    exact ⟨rules, document, e, r, rfl, hdocument, by rw [hentries]; rfl, by rw [hmade]; rfl,
      hpositions, RuleEntry.ofTable_of_rule hrule table⟩

/-- A configuration with a table whose keys are spelled in three ways, for three positions. -/
def spelledPositions : String :=
  "[[disallowed-method-calls]]\nmethod = \"Foo::bar\"\n" ++
    "allow-params-in-allowed = \x7b 01 = 42, \"+2\" = true, \" 3 \" = \"909\" \x7d\n"

/-- No condition is lost where each key names a position of its own. -/
theorem loadRules_keeps_spelledPositions :
    ∃ rules document e r, loadRules (.locate "/" "/srv") spelledPositions = .ok rules ∧
      (Toml.parse? spelledPositions.toList >>= RuleDocument.ofDatum?) = some document ∧
      document.entries[0]? = some e ∧ rules.rules[0]? = some r ∧
      e.paramsInAllowed.map Conditions.writtenPosition? = [some 1, some 2, some 3] ∧
      r.paramsInAllowed.Keeps e.paramsInAllowed := by
  have hloads : (loadRules (.locate "/" "/srv") spelledPositions).isOk = true := by
    decide +kernel
  have hread : (Toml.parse? spelledPositions.toList >>= RuleDocument.ofDatum?).map
      (fun d => d.entries.map fun e => (ConditionTable.paramsInAllowed.written e).map
        Conditions.writtenPosition?) = some [[some 1, some 2, some 3]] := by
    decide +kernel
  obtain ⟨rules, document, e, r, hload, hdocument, he, hr, hpositions, -⟩ :=
    exists_first_of_loads hloads hread
  obtain ⟨document', hdocument', -, hkeeps⟩ := loadRules_keeps_iff hload
  obtain rfl : document = document' := Option.some.inj (hdocument.symm.trans hdocument')
  have hiff := (hkeeps 0 e r he hr .paramsInAllowed).1
  rw [hpositions] at hiff
  exact ⟨rules, document, e, r, hload, hdocument, he, hr, hpositions, hiff.2 (by decide)⟩

/-- A configuration with a table in which two keys stand for the first position. -/
def doubledPosition : String :=
  "[[disallowed-method-calls]]\nmethod = \"Foo::bar\"\n" ++
    "allow-except-params = \x7b 01 = \"x\", 1 = \"y\" \x7d\n"

/-- It is not true that the rules of a configuration that is loaded keep all conditions of its
tables. -/
theorem not_loadRules_keeps :
    ¬ ∀ (root : ProjectRoot) (text : String) (rules : RuleSet) (document : RuleDocument),
      loadRules root text = .ok rules →
      (Toml.parse? text.toList >>= RuleDocument.ofDatum?) = some document →
      ∀ (i : Nat) (e : RuleEntry) (r : Rule), document.entries[i]? = some e →
        rules.rules[i]? = some r → ∀ table : ConditionTable,
        (table.loaded r).Keeps (table.written e) := by
  intro h
  have hloads : (loadRules (.locate "/" "/srv") doubledPosition).isOk = true := by
    decide +kernel
  have hread : (Toml.parse? doubledPosition.toList >>= RuleDocument.ofDatum?).map
      (fun d => d.entries.map fun e => (ConditionTable.exceptParams.written e).map
        Conditions.writtenPosition?) = some [[some 1, some 1]] := by
    decide +kernel
  obtain ⟨rules, document, e, r, hload, hdocument, he, hr, hpositions, htable⟩ :=
    exists_first_of_loads hloads hread
  have hkeeps := h _ _ rules document hload hdocument 0 e r he hr .exceptParams
  have hdistinct := (Conditions.keeps_iff htable).1 hkeeps
  rw [hpositions] at hdistinct
  exact absurd hdistinct (by decide)

end CallPolicy
