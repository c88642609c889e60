import CallPolicy.Proofs.Outcome
import CallPolicy.Rule.Document
import Mathlib.Data.List.Forall2

namespace CallPolicy

/-!
# What the entries of a configuration are read as

The parts of an entry are read one by one, each by a reader for its kind, and so are the entries of
a configuration. This file says once what each reader gives, so that no other file opens one.

* `RuleEntry.patternClause_eq_ok`, `RuleEntry.globClause_eq_ok`, `RuleEntry.tableClause_eq_ok`,
  `RuleEntry.severityClause_eq_ok` — a part that is read is the clause of its value.
* `RuleEntry.listClauses_eq_ok` — a clause of a list is read from one of its texts.
* `RuleEntry.forall₂_of_readClauses` — an entry that is read is read part by part.
* `RuleEntry.readAt_of_mem_clauses` — what a clause of an entry is made of was read.
* `RuleEntry.exists_assemble_of_rule`, `RuleEntry.rule_eq_ok` — the rule of an entry is assembled
  from all of its clauses, added in order.
* `PlacedEntry` — an entry with its section and its index there; `RuleDocument.placed` — those of a
  configuration.
* `RuleDocument.ruleSet_eq` — the rules of a configuration are made in one run through them.
-/

/-- An element of the first list is related to one of the second. -/
theorem exists_mem_of_forall₂ {α β : Type} {R : α → β → Prop} {xs : List α} {ys : List β}
    (h : List.Forall₂ R xs ys) {x : α} (hx : x ∈ xs) : ∃ y ∈ ys, R x y := by
  induction h with
  | nil => cases hx
  | cons hxy _ ih =>
    rw [List.exists_mem_cons_iff]
    rcases List.mem_cons.1 hx with rfl | hx
    · exact Or.inl hxy
    · exact Or.inr (ih hx)

/-- Clauses make the rule that holds them all, if this has no fault. -/
theorem Rule.assemble_eq_ok_iff {kind : RuleKind} {clauses : List Clause} {r : Rule} :
    assemble kind clauses = .ok r ↔
      clauses.foldl extend (blank kind) = r ∧ r.fault? = none := by
  unfold assemble
  dsimp only
  cases hfault : (clauses.foldl extend (blank kind)).fault? with
  | some fault =>
    constructor
    · exact nofun
    · rintro ⟨rfl, hnone⟩
      rw [hnone] at hfault
      cases hfault
  | none =>
    constructor
    · rintro ⟨⟩
      exact ⟨rfl, hfault⟩
    · rintro ⟨rfl, -⟩
      rfl

/-- The clause is made of what was read: a pattern or a glob of its text, or conditions of a
table. -/
def Clause.ReadAt (root : ProjectRoot) : Clause → Prop
  | .call p | .exclude p | .allowInCaller p | .allowExceptInCaller p =>
    ∃ text, SymbolPattern.compile text = .ok p
  | .allowIn g | .allowExceptIn g => ∃ text, PathGlob.compile root text = .ok g
  | .paramsInAllowed c | .exceptParamsInAllowed c | .paramsAnywhere c | .exceptParams c =>
    ∃ entries, Conditions.ofTable entries = .ok c
  | .message _ | .errorTip _ | .errorIdentifier _ | .severity _ => True

namespace RuleEntry

theorem patternClause_eq_ok {clause : SymbolPattern → Clause} {text : String} {c : Clause}
    (h : patternClause clause text = .ok c) :
    ∃ pattern, SymbolPattern.compile text = .ok pattern ∧ c = clause pattern := by
  unfold patternClause at h
  split at h
  · rename_i pattern hpattern
    exact ⟨pattern, hpattern, (Except.ok.inj h).symm⟩
  · cases h

theorem globClause_eq_ok {root : ProjectRoot} {clause : PathGlob → Clause} {text : String}
    {c : Clause} (h : globClause root clause text = .ok c) :
    ∃ glob, PathGlob.compile root text = .ok glob ∧ c = clause glob := by
  unfold globClause at h
  split at h
  · rename_i glob hglob
    exact ⟨glob, hglob, (Except.ok.inj h).symm⟩
  · cases h

theorem tableClause_eq_ok {name : String} {clause : Conditions → Clause}
    {entries : List (String × Datum)} {c : Clause}
    (h : (tableClause name clause entries).clause = .ok c) :
    ∃ conditions, Conditions.ofTable entries = .ok conditions ∧ c = clause conditions := by
  unfold tableClause at h
  dsimp only at h
  split at h
  · rename_i conditions hconditions
    exact ⟨conditions, hconditions, (Except.ok.inj h).symm⟩
  · cases h

theorem severityClause_eq_ok {name : String} {c : Clause}
    (h : (severityClause name).clause = .ok c) :
    ∃ severity, Severity.ofName? name = some severity ∧ c = .severity severity := by
  unfold severityClause at h
  dsimp only at h
  split at h
  · rename_i severity hseverity
    exact ⟨severity, hseverity, (Except.ok.inj h).symm⟩
  · cases h

theorem listClauses_eq_ok {list : String} {read : String → Except RuleError Clause}
    {texts : List String} {w : WrittenClause} {c : Clause} (hw : w ∈ listClauses list read texts)
    (hc : w.clause = .ok c) : ∃ text ∈ texts, read text = .ok c := by
  obtain ⟨⟨text, index⟩, hmem, rfl⟩ := List.mem_map.1 hw
  exact ⟨text, List.fst_mem_of_mem_zipIdx hmem, hc⟩

theorem forall₂_of_readClauses {written : List WrittenClause} {clauses : List Clause}
    (h : readClauses written = .ok clauses) :
    List.Forall₂ (fun w c => w.clause = .ok c) written clauses := by
  induction written generalizing clauses with
  | nil =>
    cases h
    exact .nil
  | cons w rest ih =>
    unfold readClauses at h
    split at h
    · cases h
    · rename_i c hc
      obtain ⟨more, hrest, rfl⟩ := exists_of_map_eq_ok h
      exact .cons hc (ih hrest)

/-- A clause that an entry is read as is made of what was read. -/
theorem readAt_of_mem_clauses {root : ProjectRoot} {calls : List String} {e : RuleEntry}
    {w : WrittenClause} (hw : w ∈ e.clauses root calls) {c : Clause} (hc : w.clause = .ok c) :
    c.ReadAt root := by
  have hpattern : ∀ {list clause texts}, w ∈ listClauses list (patternClause clause) texts →
      (∀ p text, SymbolPattern.compile text = .ok p → (clause p).ReadAt root) →
      c.ReadAt root := by
    intro list clause texts hmem hclause
    obtain ⟨text, -, hread⟩ := listClauses_eq_ok hmem hc
    obtain ⟨p, hp, rfl⟩ := patternClause_eq_ok hread
    exact hclause p text hp
  have hglob : ∀ {list clause texts}, w ∈ listClauses list (globClause root clause) texts →
      (∀ g text, PathGlob.compile root text = .ok g → (clause g).ReadAt root) →
      c.ReadAt root := by
    intro list clause texts hmem hclause
    obtain ⟨text, -, hread⟩ := listClauses_eq_ok hmem hc
    obtain ⟨g, hg, rfl⟩ := globClause_eq_ok hread
    exact hclause g text hg
  have htable : ∀ {name clause entries}, w = tableClause name clause entries →
      (∀ conditions, Conditions.ofTable entries = .ok conditions →
        (clause conditions).ReadAt root) →
      c.ReadAt root := by
    rintro name clause entries rfl hclause
    obtain ⟨conditions, hconditions, rfl⟩ := tableClause_eq_ok hc
    exact hclause conditions hconditions
  have hready : ∀ {clause}, w = readyClause clause → clause.ReadAt root → c.ReadAt root := by
    rintro clause rfl hclause
    exact Except.ok.inj hc ▸ hclause
  -- The parts are taken in the order in which an entry lists them.
  simp only [clauses, List.mem_append, List.mem_cons, List.not_mem_nil, or_false, List.mem_map]
    at hw
  rcases hw with (((((((((hw | hw) | hw) | hw) | hw) | hw) | hw) |
    (hw | hw | hw | hw)) | ⟨text, -, hw⟩) | ⟨text, -, hw⟩) | hw
  · exact hready hw trivial
  · exact hpattern hw fun _ text hp => ⟨text, hp⟩
  · exact hpattern hw fun _ text hp => ⟨text, hp⟩
  · exact hglob hw fun _ text hg => ⟨text, hg⟩
  · exact hglob hw fun _ text hg => ⟨text, hg⟩
  · exact hpattern hw fun _ text hp => ⟨text, hp⟩
  · exact hpattern hw fun _ text hp => ⟨text, hp⟩
  · exact htable hw fun _ hconditions => ⟨_, hconditions⟩
  · exact htable hw fun _ hconditions => ⟨_, hconditions⟩
  · exact htable hw fun _ hconditions => ⟨_, hconditions⟩
  · exact htable hw fun _ hconditions => ⟨_, hconditions⟩
  · exact hready hw.symm trivial
  · exact hready hw.symm trivial
  · rw [hw] at hc
    obtain ⟨severity, -, rfl⟩ := severityClause_eq_ok hc
    trivial

/-- So are all clauses of an entry that is read. -/
theorem readAt_of_readClauses {root : ProjectRoot} {calls : List String} {e : RuleEntry}
    {clauses : List Clause} (h : readClauses (e.clauses root calls) = .ok clauses) :
    ∀ c ∈ clauses, c.ReadAt root := by
  intro c hc
  obtain ⟨w, hw, hread⟩ := exists_mem_of_forall₂ (forall₂_of_readClauses h).flip hc
  exact readAt_of_mem_clauses hw hread

/-- The rule of an entry is assembled from the clauses that the entry was read as. -/
theorem exists_assemble_of_rule {root : ProjectRoot} {kind : RuleKind} {e : RuleEntry} {r : Rule}
    (h : e.rule root kind = .ok r) :
    ∃ calls clauses, readClauses (e.clauses root calls) = .ok clauses ∧
      Rule.assemble kind clauses = .ok r := by
  unfold rule at h
  split at h
  · cases h
  rename_i calls hcalls
  split at h
  · cases h
  rename_i clauses hclauses
  split at h
  · cases h
  rename_i made hmade
  cases h
  exact ⟨calls, clauses, hclauses, hmade⟩

/-- So it holds all of them. -/
theorem rule_eq_ok {root : ProjectRoot} {kind : RuleKind} {e : RuleEntry} {r : Rule}
    (h : e.rule root kind = .ok r) :
    ∃ calls clauses, readClauses (e.clauses root calls) = .ok clauses ∧
      r = clauses.foldl Rule.extend (.blank kind) := by
  obtain ⟨calls, clauses, hclauses, hmade⟩ := exists_assemble_of_rule h
  exact ⟨calls, clauses, hclauses, (Rule.assemble_eq_ok_iff.1 hmade).1.symm⟩

end RuleEntry

/-! ### Entries and their places -/

/-- An entry of a configuration, with its section and its index there. -/
structure PlacedEntry where
  kind : RuleKind
  index : Nat
  entry : RuleEntry

/-- The entries of a section whose first one has the given index. -/
def placedFrom (kind : RuleKind) (index : Nat) (entries : List RuleEntry) : List PlacedEntry :=
  (entries.zipIdx index).map fun (entry, index) => { kind, index, entry }

/-- All entries of a configuration, in the order in which they are read. -/
def RuleDocument.placed (d : RuleDocument) : List PlacedEntry :=
  placedFrom .method 0 d.methods ++ placedFrom .function 0 d.functions

namespace PlacedEntry

/-- The rule of the entry, or the error with its place. -/
def rule (root : ProjectRoot) (p : PlacedEntry) : Except LoadError Rule :=
  match p.entry.rule root p.kind with
  | .ok rule => .ok rule
  | .error (part, cause) => .error (.invalid ⟨p.kind, p.index, part⟩ cause)

theorem rule_eq_ok_iff {root : ProjectRoot} {p : PlacedEntry} {r : Rule} :
    p.rule root = .ok r ↔ p.entry.rule root p.kind = .ok r := by
  unfold rule
  cases p.entry.rule root p.kind with
  | ok made =>
    constructor
    · rintro ⟨⟩
      rfl
    · rintro ⟨⟩
      rfl
  | error fault => exact ⟨nofun, nofun⟩

theorem rule_eq_error_iff {root : ProjectRoot} {p : PlacedEntry} {e : LoadError} :
    p.rule root = .error e ↔ ∃ part cause, p.entry.rule root p.kind = .error (part, cause) ∧
      e = .invalid ⟨p.kind, p.index, part⟩ cause := by
  unfold rule
  cases p.entry.rule root p.kind with
  | ok made => exact ⟨nofun, nofun⟩
  | error fault =>
    obtain ⟨part, cause⟩ := fault
    constructor
    · intro h
      exact ⟨part, cause, rfl, (Except.error.inj h).symm⟩
    · rintro ⟨_, _, ⟨⟩, rfl⟩
      rfl

end PlacedEntry

/-! ### One run through all entries -/

namespace RuleDocument

theorem sectionRules_eq_mapM (root : ProjectRoot) (kind : RuleKind) (index : Nat)
    (entries : List RuleEntry) :
    sectionRules root kind index entries =
      (placedFrom kind index entries).mapM (PlacedEntry.rule root) := by
  induction entries generalizing index with
  | nil => rfl
  | cons e rest ih =>
    have hplaced : placedFrom kind index (e :: rest) =
        ⟨kind, index, e⟩ :: placedFrom kind (index + 1) rest := rfl
    rw [sectionRules, ih, hplaced, List.mapM_cons, PlacedEntry.rule]
    cases e.rule root kind with
    | error fault => rfl
    | ok r => cases (placedFrom kind (index + 1) rest).mapM (PlacedEntry.rule root) <;> rfl

theorem map_entry_placedFrom (kind : RuleKind) (index : Nat) (entries : List RuleEntry) :
    (placedFrom kind index entries).map (·.entry) = entries := by
  unfold placedFrom
  rw [List.map_map]
  exact List.zipIdx_map_fst index entries

theorem map_entry_placed (d : RuleDocument) :
    d.placed.map (·.entry) = d.methods ++ d.functions := by
  rw [placed, List.map_append, map_entry_placedFrom, map_entry_placedFrom]

/-- The rules of a configuration are made in one run through its entries. -/
theorem ruleSet_eq (root : ProjectRoot) (d : RuleDocument) :
    d.ruleSet root = (d.placed.mapM (PlacedEntry.rule root)).map RuleSet.mk := by
  unfold ruleSet placed
  rw [sectionRules_eq_mapM, sectionRules_eq_mapM, List.mapM_append]
  cases (placedFrom .method 0 d.methods).mapM (PlacedEntry.rule root) with
  | error e => rfl
  | ok methods =>
    cases (placedFrom .function 0 d.functions).mapM (PlacedEntry.rule root) <;> rfl

theorem ruleSet_eq_ok_iff {root : ProjectRoot} {d : RuleDocument} {s : RuleSet} :
    d.ruleSet root = .ok s ↔
      List.Forall₂ (fun p r => p.entry.rule root p.kind = .ok r) d.placed s.rules := by
  simp only [← PlacedEntry.rule_eq_ok_iff, ← mapM_eq_ok_iff, ruleSet_eq]
  cases d.placed.mapM (PlacedEntry.rule root) with
  | error e => exact ⟨nofun, nofun⟩
  | ok rules =>
    constructor
    · rintro ⟨⟩
      rfl
    · rintro ⟨⟩
      rfl

theorem ruleSet_eq_error_iff {root : ProjectRoot} {d : RuleDocument} {e : LoadError} :
    d.ruleSet root = .error e ↔ ∃ before p after, d.placed = before ++ p :: after ∧
      (∀ q ∈ before, ∃ r, q.entry.rule root q.kind = .ok r) ∧
      ∃ part cause, p.entry.rule root p.kind = .error (part, cause) ∧
        e = .invalid ⟨p.kind, p.index, part⟩ cause := by
  rw [ruleSet_eq, map_eq_error_iff, mapM_eq_error_iff]
  simp only [PlacedEntry.rule_eq_ok_iff, PlacedEntry.rule_eq_error_iff]

end RuleDocument

end CallPolicy
