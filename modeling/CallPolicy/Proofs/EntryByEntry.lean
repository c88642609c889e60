import CallPolicy.Proofs.Clauses

namespace CallPolicy

/-!
# Configurations entry by entry

The rules of a configuration are made one entry at a time, and no entry sees another one. So what a
configuration comes to is told by what each entry comes to in a configuration of its own.

* `PlacedEntry.alone` — the configuration of one entry; `PlacedEntry.alone_eq_ok_iff`,
  `PlacedEntry.alone_eq_error_iff` — what it comes to.
* `RuleDocument.ruleSet_entrywise` — the rules of a configuration are those of its entries, and its
  error is that of the first entry with one, but for the index.
-/

/-! ### One entry alone -/

namespace PlacedEntry

/-- The configuration with this entry only, in its section. -/
def alone (p : PlacedEntry) : RuleDocument :=
  match p.kind with
  | .method => { methods := [p.entry], functions := [] }
  | .function => { methods := [], functions := [p.entry] }

theorem placed_alone (p : PlacedEntry) : p.alone.placed = [{ p with index := 0 }] := by
  obtain ⟨kind, index, entry⟩ := p
  cases kind <;> rfl

theorem alone_eq_ok_iff {root : ProjectRoot} {p : PlacedEntry} {s : RuleSet} :
    p.alone.ruleSet root = .ok s ↔ ∃ r, p.entry.rule root p.kind = .ok r ∧ s = ⟨[r]⟩ := by
  rw [RuleDocument.ruleSet_eq_ok_iff, placed_alone, List.forall₂_cons_left_iff]
  constructor
  · rintro ⟨r, more, hr, hmore, hrules⟩
    rw [List.forall₂_nil_left_iff.1 hmore] at hrules
    exact ⟨r, hr, congrArg RuleSet.mk hrules⟩
  · rintro ⟨r, hr, rfl⟩
    exact ⟨r, [], hr, .nil, rfl⟩

theorem exists_alone_eq_ok_iff {root : ProjectRoot} {p : PlacedEntry} :
    (∃ s, p.alone.ruleSet root = .ok s) ↔ ∃ r, p.entry.rule root p.kind = .ok r := by
  constructor
  · rintro ⟨s, hs⟩
    obtain ⟨r, hr, -⟩ := alone_eq_ok_iff.1 hs
    exact ⟨r, hr⟩
  · rintro ⟨r, hr⟩
    exact ⟨⟨[r]⟩, alone_eq_ok_iff.2 ⟨r, hr, rfl⟩⟩

theorem alone_eq_error_iff {root : ProjectRoot} {p : PlacedEntry} {e : LoadError} :
    p.alone.ruleSet root = .error e ↔ ∃ part cause,
      p.entry.rule root p.kind = .error (part, cause) ∧ e = .invalid ⟨p.kind, 0, part⟩ cause := by
  rw [RuleDocument.ruleSet_eq_error_iff, placed_alone]
  constructor
  · rintro ⟨before, q, after, hsplit, -, part, cause, hq, rfl⟩
    obtain ⟨rfl, rfl, rfl⟩ : before = [] ∧ q = { p with index := 0 } ∧ after = [] := by
      cases before with
      | nil => simpa [eq_comm] using hsplit
      | cons first before => simp at hsplit
    exact ⟨part, cause, hq, rfl⟩
  · rintro ⟨part, cause, hp, rfl⟩
    exact ⟨[], { p with index := 0 }, [], rfl, List.forall_mem_nil _, part, cause, hp, rfl⟩

end PlacedEntry

/-! ### The kinds of rules -/

theorem Rule.kind_extend (r : Rule) (c : Clause) : (r.extend c).kind = r.kind := by
  cases c <;> rfl

theorem Rule.kind_foldl_extend (clauses : List Clause) (r : Rule) :
    (clauses.foldl Rule.extend r).kind = r.kind := by
  induction clauses generalizing r with
  | nil => rfl
  | cons c rest ih => rw [List.foldl_cons, ih, kind_extend]

/-- A rule has the kind of the section of its entry. -/
theorem RuleEntry.kind_of_rule {root : ProjectRoot} {kind : RuleKind} {e : RuleEntry} {r : Rule}
    (h : e.rule root kind = .ok r) : r.kind = kind := by
  obtain ⟨calls, clauses, -, rfl⟩ := rule_eq_ok h
  rw [Rule.kind_foldl_extend]
  rfl

namespace RuleDocument

theorem kind_of_mem_placedFrom {kind : RuleKind} {index : Nat} {entries : List RuleEntry}
    {p : PlacedEntry} (h : p ∈ placedFrom kind index entries) : p.kind = kind := by
  obtain ⟨_, -, rfl⟩ := List.mem_map.1 h
  rfl

/-- Rules that were made of the entries of one section have its kind. -/
theorem kind_of_mem_rules {root : ProjectRoot} {kind : RuleKind} {index : Nat}
    {entries : List RuleEntry} {rules : List Rule}
    (h : List.Forall₂ (fun r p => p.entry.rule root p.kind = .ok r) rules
      (placedFrom kind index entries)) : ∀ r ∈ rules, r.kind = kind := by
  intro r hr
  obtain ⟨p, hp, hrule⟩ := exists_mem_of_forall₂ h hr
  rw [RuleEntry.kind_of_rule hrule, kind_of_mem_placedFrom hp]

theorem filter_kind_of_forall {kind : RuleKind} {rules : List Rule}
    (h : ∀ r ∈ rules, r.kind = kind) (kind' : RuleKind) :
    rules.filter (·.kind == kind') = if kind = kind' then rules else [] := by
  split
  · rename_i hsame
    exact List.filter_eq_self.2 fun r hr => beq_iff_eq.2 ((h r hr).trans hsame)
  · rename_i hother
    refine List.filter_eq_nil_iff.2 fun r hr hkind => hother ?_
    rw [← h r hr, beq_iff_eq.1 hkind]

/-- The rules of the two kinds make up the set, those for methods first. -/
theorem ofKind_append_ofKind {root : ProjectRoot} {d : RuleDocument} {s : RuleSet}
    (h : d.ruleSet root = .ok s) : s.ofKind .method ++ s.ofKind .function = s.rules := by
  -- The rules of the method entries stand in front of those of the function entries.
  have hrules := (ruleSet_eq_ok_iff.1 h).flip
  have hmethods := filter_kind_of_forall
    (kind_of_mem_rules (List.forall₂_take_append _ _ _ hrules))
  have hfunctions := filter_kind_of_forall
    (kind_of_mem_rules (List.forall₂_drop_append _ _ _ hrules))
  unfold RuleSet.ofKind
  rw [← List.take_append_drop (placedFrom .method 0 d.methods).length s.rules, List.filter_append,
    List.filter_append, hmethods, hmethods, hfunctions, hfunctions]
  simp

end RuleDocument

/-! ### All entries -/

/-- The part of an entry, as it stands in the text of a place. -/
def EntryPart.text : EntryPart → String
  | .whole => ""
  | .item list index => "." ++ list ++ "[" ++ toString index ++ "]"
  | .table name => "." ++ name

/-- The index of the entry shows once in the text of a place. -/
theorem Place.text_eq (kind : RuleKind) (index : Nat) (part : EntryPart) :
    (Place.mk kind index part).text =
      kind.section ++ "[" ++ toString index ++ "]" ++ part.text := by
  have hself : ∀ s : String, toString s = s := fun _ => rfl
  cases part with
  | whole => simp only [Place.text, EntryPart.text, hself, String.append_empty]
  | item list i => simp only [Place.text, EntryPart.text, hself, String.append_assoc]
  | table name => simp only [Place.text, EntryPart.text, hself, String.append_assoc]

theorem RuleDocument.exists_ruleSet_iff {root : ProjectRoot} {d : RuleDocument} :
    (∃ s, d.ruleSet root = .ok s) ↔
      ∀ p ∈ d.placed, ∃ r, p.entry.rule root p.kind = .ok r := by
  constructor
  · rintro ⟨s, hs⟩ p hp
    obtain ⟨r, -, hr⟩ := exists_mem_of_forall₂ (ruleSet_eq_ok_iff.1 hs) hp
    exact ⟨r, hr⟩
  · intro hall
    cases hset : d.ruleSet root with
    | ok s => exact ⟨s, rfl⟩
    | error e =>
      -- The entry with the error would have a rule.
      obtain ⟨before, p, after, hsplit, -, part, cause, herror, -⟩ := ruleSet_eq_error_iff.1 hset
      obtain ⟨r, hr⟩ := hall p (by simp [hsplit])
      rw [hr] at herror
      cases herror

/-- **Entry by entry.** A configuration is loaded exactly if each of its entries is loaded alone, in
its section. Its rules are then those of the entries alone, in order, the rules for methods followed
by those for functions. Otherwise its error is that of the first entry that is not loaded alone, at
the index of this entry; the index shows in the place, and nowhere else. -/
theorem RuleDocument.ruleSet_entrywise (root : ProjectRoot) (d : RuleDocument) :
    ((∃ s, d.ruleSet root = .ok s) ↔ ∀ p ∈ d.placed, ∃ s, p.alone.ruleSet root = .ok s) ∧
    (∀ s, d.ruleSet root = .ok s →
      List.Forall₂ (fun p r => p.alone.ruleSet root = .ok ⟨[r]⟩) d.placed s.rules ∧
      s.ofKind .method ++ s.ofKind .function = s.rules) ∧
    (∀ e, d.ruleSet root = .error e ↔ ∃ before p after part cause,
      d.placed = before ++ p :: after ∧ (∀ q ∈ before, ∃ s, q.alone.ruleSet root = .ok s) ∧
      p.alone.ruleSet root = .error (.invalid ⟨p.kind, 0, part⟩ cause) ∧
      e = .invalid ⟨p.kind, p.index, part⟩ cause) ∧
    ∀ kind index part, (Place.mk kind index part).text =
      kind.section ++ "[" ++ toString index ++ "]" ++ part.text := by
  refine ⟨?_, fun s hs => ⟨?_, ofKind_append_ofKind hs⟩, fun e => ?_, Place.text_eq⟩
  · simp only [PlacedEntry.exists_alone_eq_ok_iff]
    exact exists_ruleSet_iff
  · exact (ruleSet_eq_ok_iff.1 hs).imp fun p r hr => PlacedEntry.alone_eq_ok_iff.2 ⟨r, hr, rfl⟩
  · rw [ruleSet_eq_error_iff]
    simp only [PlacedEntry.exists_alone_eq_ok_iff]
    constructor
    · rintro ⟨before, p, after, hsplit, hbefore, part, cause, herror, rfl⟩
      exact ⟨before, p, after, part, cause, hsplit, hbefore,
        PlacedEntry.alone_eq_error_iff.2 ⟨part, cause, herror, rfl⟩, rfl⟩
    · rintro ⟨before, p, after, part, cause, hsplit, hbefore, halone, rfl⟩
      obtain ⟨_, _, herror, ⟨⟩⟩ := PlacedEntry.alone_eq_error_iff.1 halone
      exact ⟨before, p, after, hsplit, hbefore, part, cause, herror, rfl⟩

/-- An entry that names one method, or function, and says nothing else. -/
def namingEntry (name : String) : RuleEntry where
  method := some [name]
  function := none
  message := ""
  exclude := []
  allowIn := []
  allowExceptIn := []
  allowInCallers := []
  allowExceptInCallers := []
  paramsInAllowed := []
  exceptParamsInAllowed := []
  paramsAnywhere := []
  exceptParams := []
  errorTip := none
  errorIdentifier := none
  severity := "error"

/-- Of three entries the last two have errors. The one that is reported is that of the second
method, at index 1; alone it stands at index 0. -/
theorem RuleDocument.ruleSet_entrywise_secondMethod :
    (∃ s, (PlacedEntry.mk .method 0 (namingEntry "Foo::bar")).alone.ruleSet (.locate "/" "/srv") =
      .ok s) ∧
    (PlacedEntry.mk .method 1 (namingEntry "Fo*::bar")).alone.ruleSet (.locate "/" "/srv") =
      .error (.invalid ⟨.method, 0, .item "calls" 0⟩ (.pattern (.wildcardInQualifier "Fo*::bar"))) ∧
    ruleSet (.locate "/" "/srv")
        ⟨[namingEntry "Foo::bar", namingEntry "Fo*::bar"], [namingEntry ""]⟩ =
      .error (.invalid ⟨.method, 1, .item "calls" 0⟩ (.pattern (.wildcardInQualifier "Fo*::bar"))) ∧
    (Place.mk .method 1 (.item "calls" 0)).text = "disallowed-method-calls[1].calls[0]" := by
  have hfirst : ∃ s, (PlacedEntry.mk .method 0 (namingEntry "Foo::bar")).alone.ruleSet
      (.locate "/" "/srv") = .ok s := by
    rw [PlacedEntry.exists_alone_eq_ok_iff]
    exact ⟨Rule.extend (.blank .method) (.call ⟨"Foo::bar", .named "foo::bar"⟩), by decide +kernel⟩
  have hsecond : (PlacedEntry.mk .method 1 (namingEntry "Fo*::bar")).alone.ruleSet
      (.locate "/" "/srv") = .error (.invalid ⟨.method, 0, .item "calls" 0⟩
        (.pattern (.wildcardInQualifier "Fo*::bar"))) := by
    decide +kernel
  obtain ⟨-, -, herror, htext⟩ := ruleSet_entrywise (.locate "/" "/srv")
    ⟨[namingEntry "Foo::bar", namingEntry "Fo*::bar"], [namingEntry ""]⟩
  refine ⟨hfirst, hsecond, (herror _).2 ⟨[⟨.method, 0, namingEntry "Foo::bar"⟩],
    ⟨.method, 1, namingEntry "Fo*::bar"⟩, [⟨.function, 0, namingEntry ""⟩], .item "calls" 0,
    .pattern (.wildcardInQualifier "Fo*::bar"), rfl, List.forall_mem_singleton.2 hfirst, hsecond,
    rfl⟩, ?_⟩
  rw [htext]
  rfl

end CallPolicy
