import CallPolicy.Proofs.Clauses
import CallPolicy.Proofs.Glob.Anchor

namespace CallPolicy

open CallPolicy.Path

/-!
# Loading rules at two roots

Rules that are loaded at two roots differ in their globs only, and these are relocated.

* `Clause.Relocated`, `Rule.Relocated` — clauses and rules that differ so.
* `Rule.assemble_relocated` — relocated clauses make relocated rules.
* `RuleEntry.StaysInside`, `RuleDocument.StaysInside` — all globs as written stay inside the root.
* `LoadError.withoutPosition` — an error without the position in the anchored glob.
* `loadRules_relocated` — one text is loaded at both roots, or has the same error at both.
-/

variable {root root' : ProjectRoot}

/-! ### Rules that differ in their globs -/

/-- The clause names a glob. -/
def Clause.isGlob : Clause → Bool
  | .allowIn _ | .allowExceptIn _ => true
  | _ => false

/-- Two clauses that are the same but for a relocated glob. -/
inductive Clause.Relocated (root root' : ProjectRoot) : Clause → Clause → Prop
  | allowIn {g g' : PathGlob} (h : PathGlob.Relocated root root' g g') :
    Relocated root root' (.allowIn g) (.allowIn g')
  | allowExceptIn {g g' : PathGlob} (h : PathGlob.Relocated root root' g g') :
    Relocated root root' (.allowExceptIn g) (.allowExceptIn g')
  | same {c : Clause} (h : c.isGlob = false) : Relocated root root' c c

namespace Rule

/-- Two rules that are the same but for relocated globs. -/
inductive Relocated (root root' : ProjectRoot) : Rule → Rule → Prop
  | mk (r : Rule) {allowIn allowExceptIn : List PathGlob}
    (hallowIn : List.Forall₂ (PathGlob.Relocated root root') r.allowIn allowIn)
    (hallowExceptIn : List.Forall₂ (PathGlob.Relocated root root') r.allowExceptIn allowExceptIn) :
    Relocated root root' r { r with allowIn, allowExceptIn }

/-- One more pair of relocated clauses keeps the rules relocated. -/
theorem extend_relocated {r r' : Rule} {c c' : Clause} (hr : Relocated root root' r r')
    (hc : Clause.Relocated root root' c c') :
    Relocated root root' (r.extend c) (r'.extend c') := by
  cases hr with
  | mk hallowIn hallowExceptIn =>
    cases hc with
    | allowIn h => exact .mk _ (List.rel_append hallowIn (.cons h .nil)) hallowExceptIn
    | allowExceptIn h => exact .mk _ hallowIn (List.rel_append hallowExceptIn (.cons h .nil))
    -- A clause that names no glob does not touch the lists of globs.
    | same h =>
      cases c with
      | allowIn g => cases h
      | allowExceptIn g => cases h
      | _ => exact .mk _ hallowIn hallowExceptIn

theorem foldl_extend_relocated {r r' : Rule} {clauses clauses' : List Clause}
    (hclauses : List.Forall₂ (Clause.Relocated root root') clauses clauses')
    (hr : Relocated root root' r r') :
    Relocated root root' (clauses.foldl extend r) (clauses'.foldl extend r') := by
  induction hclauses generalizing r r' with
  | nil => exact hr
  | cons hc _ ih => exact ih (extend_relocated hr hc)

/-- Relocated rules have the same faults, which do not depend on globs. -/
theorem fault?_relocated {r r' : Rule} (h : Relocated root root' r r') : r.fault? = r'.fault? := by
  cases h
  rfl

theorem assemble_relocated (kind : RuleKind) {clauses clauses' : List Clause}
    (h : List.Forall₂ (Clause.Relocated root root') clauses clauses') :
    SameOutcome Eq (Relocated root root') (assemble kind clauses) (assemble kind clauses') := by
  have hrule : Relocated root root' (clauses.foldl extend (blank kind))
      (clauses'.foldl extend (blank kind)) :=
    foldl_extend_relocated h (.mk _ .nil .nil)
  unfold assemble
  dsimp only
  rw [← fault?_relocated hrule]
  cases (clauses.foldl extend (blank kind)).fault? with
  | some fault => exact .error rfl
  | none => exact .ok hrule

end Rule

/-! ### Entries -/

/-- The error without the position in the anchored glob. -/
def RuleError.withoutPosition : RuleError → RuleError
  | .glob cause => .glob cause.withoutPosition
  | e => e

/-- A clause that is still to be read, at two roots. -/
structure WrittenClause.Relocated (root root' : ProjectRoot) (w w' : WrittenClause) : Prop where
  part : w.part = w'.part
  clause : SameOutcome (fun e e' : RuleError => e.withoutPosition = e'.withoutPosition)
    (Clause.Relocated root root') w.clause w'.clause

/-- A reading that gives no glob is the same at both roots. -/
def ReadsNoGlob (x : Except RuleError Clause) : Prop :=
  ∀ c, x = .ok c → c.isGlob = false

theorem WrittenClause.relocated_of_readsNoGlob {w : WrittenClause} (h : ReadsNoGlob w.clause) :
    w.Relocated root root' w := by
  refine ⟨rfl, ?_⟩
  cases hclause : w.clause with
  | error e => exact .error rfl
  | ok c => exact .ok (.same (h c hclause))

namespace RuleEntry

/-- All globs of the entry stay inside the root. -/
def StaysInside (e : RuleEntry) : Prop :=
  ∀ text ∈ e.allowIn ++ e.allowExceptIn, Path.StaysInside text.toList

/-- Errors of entries that agree but for positions. -/
def SameFault (fault fault' : EntryPart × RuleError) : Prop :=
  fault.1 = fault'.1 ∧ fault.2.withoutPosition = fault'.2.withoutPosition

theorem readClauses_relocated {written written' : List WrittenClause}
    (h : List.Forall₂ (WrittenClause.Relocated root root') written written') :
    SameOutcome SameFault (List.Forall₂ (Clause.Relocated root root')) (readClauses written)
      (readClauses written') := by
  induction h with
  | nil => exact .ok .nil
  | @cons w w' rest rest' hw _ ih =>
    obtain ⟨part, clause⟩ := w
    obtain ⟨part', clause'⟩ := w'
    obtain ⟨hpart, hclause⟩ := hw
    -- The first clause that fails decides at both roots, and it is the same one.
    unfold readClauses
    cases hclause with
    | error he => exact .error ⟨hpart, he⟩
    | ok hc => exact ih.map fun _ _ hrest => .cons hc hrest

theorem listClauses_relocated (list : String) {read read' : String → Except RuleError Clause}
    {texts : List String}
    (h : ∀ text ∈ texts, SameOutcome
      (fun e e' : RuleError => e.withoutPosition = e'.withoutPosition)
      (Clause.Relocated root root') (read text) (read' text)) :
    List.Forall₂ (WrittenClause.Relocated root root') (listClauses list read texts)
      (listClauses list read' texts) := by
  unfold listClauses
  rw [List.forall₂_map_left_iff, List.forall₂_map_right_iff, List.forall₂_same]
  rintro ⟨text, index⟩ hmem
  exact ⟨rfl, h text (List.fst_mem_of_mem_zipIdx hmem)⟩

theorem globClause_relocated (hroot : root.path.IsPlain) (hroot' : root'.path.IsPlain)
    {clause : PathGlob → Clause}
    (hclause : ∀ g g', PathGlob.Relocated root root' g g' →
      Clause.Relocated root root' (clause g) (clause g'))
    {text : String} (htext : Path.StaysInside text.toList) :
    SameOutcome (fun e e' : RuleError => e.withoutPosition = e'.withoutPosition)
      (Clause.Relocated root root') (globClause root clause text)
      (globClause root' clause text) := by
  unfold globClause
  rcases (PathGlob.compile_relocated hroot hroot' htext).ok_or_error with
    ⟨g, g', hread, hread', hg⟩ | ⟨e, e', hread, hread', he⟩
  · rw [hread, hread']
    exact .ok (hclause g g' hg)
  · rw [hread, hread']
    exact .error (congrArg RuleError.glob he)

theorem readsNoGlob_patternClause {clause : SymbolPattern → Clause}
    (h : ∀ p, (clause p).isGlob = false) (text : String) :
    ReadsNoGlob (patternClause clause text) := by
  intro c hc
  obtain ⟨p, -, rfl⟩ := patternClause_eq_ok hc
  exact h p

theorem readsNoGlob_tableClause (name : String) {clause : Conditions → Clause}
    (h : ∀ conditions, (clause conditions).isGlob = false) (entries : List (String × Datum)) :
    ReadsNoGlob (tableClause name clause entries).clause := by
  intro c hc
  obtain ⟨conditions, -, rfl⟩ := tableClause_eq_ok hc
  exact h conditions

theorem readsNoGlob_severityClause (name : String) : ReadsNoGlob (severityClause name).clause := by
  intro c hc
  obtain ⟨severity, -, rfl⟩ := severityClause_eq_ok hc
  rfl

theorem readsNoGlob_readyClause {clause : Clause} (h : clause.isGlob = false) :
    ReadsNoGlob (readyClause clause).clause := by
  intro c hc
  cases hc
  exact h

/-- Clauses that name no glob are the same at both roots. -/
theorem forall₂_relocated_same {written : List WrittenClause}
    (h : ∀ w ∈ written, ReadsNoGlob w.clause) :
    List.Forall₂ (WrittenClause.Relocated root root') written written :=
  List.forall₂_same.2 fun w hw => WrittenClause.relocated_of_readsNoGlob (h w hw)

theorem readsNoGlob_listClauses (list : String) {read : String → Except RuleError Clause}
    (h : ∀ text, ReadsNoGlob (read text)) (texts : List String) :
    ∀ w ∈ listClauses list read texts, ReadsNoGlob w.clause := by
  intro w hw c hc
  obtain ⟨text, -, hread⟩ := listClauses_eq_ok hw hc
  exact h text c hread

/-- The clauses of an entry that stand before its globs. -/
def clausesBefore (calls : List String) (e : RuleEntry) : List WrittenClause :=
  [readyClause (.message e.message)] ++ listClauses "calls" (patternClause .call) calls ++
    listClauses "exclude" (patternClause .exclude) e.exclude

/-- The clauses of an entry that stand after its globs. -/
def clausesAfter (e : RuleEntry) : List WrittenClause :=
  listClauses "allow-in-callers" (patternClause .allowInCaller) e.allowInCallers ++
  listClauses "allow-except-in-callers" (patternClause .allowExceptInCaller)
    e.allowExceptInCallers ++
  [tableClause "allow-params-in-allowed" .paramsInAllowed e.paramsInAllowed,
    tableClause "allow-except-params-in-allowed" .exceptParamsInAllowed e.exceptParamsInAllowed,
    tableClause "allow-params-anywhere" .paramsAnywhere e.paramsAnywhere,
    tableClause "allow-except-params" .exceptParams e.exceptParams] ++
  e.errorTip.toList.map (fun text => readyClause (.errorTip text)) ++
  e.errorIdentifier.toList.map (fun text => readyClause (.errorIdentifier text)) ++
  [severityClause e.severity]

theorem clauses_eq (root : ProjectRoot) (calls : List String) (e : RuleEntry) :
    e.clauses root calls = e.clausesBefore calls ++
      (listClauses "allow-in" (globClause root .allowIn) e.allowIn ++
        (listClauses "allow-except-in" (globClause root .allowExceptIn) e.allowExceptIn ++
          e.clausesAfter)) := by
  simp only [clauses, clausesBefore, clausesAfter, List.append_assoc]

theorem readsNoGlob_clausesBefore (calls : List String) (e : RuleEntry) :
    ∀ w ∈ e.clausesBefore calls, ReadsNoGlob w.clause := by
  unfold clausesBefore
  rw [List.forall_mem_append, List.forall_mem_append]
  refine ⟨⟨List.forall_mem_singleton.2 (readsNoGlob_readyClause rfl), ?_⟩, ?_⟩
  · exact readsNoGlob_listClauses _ (readsNoGlob_patternClause fun _ => rfl) _
  · exact readsNoGlob_listClauses _ (readsNoGlob_patternClause fun _ => rfl) _

theorem readsNoGlob_clausesAfter (e : RuleEntry) :
    ∀ w ∈ e.clausesAfter, ReadsNoGlob w.clause := by
  have htext : ∀ {clause : String → Clause}, (∀ text, (clause text).isGlob = false) →
      ∀ text : Option String, ∀ w ∈ text.toList.map fun text => readyClause (clause text),
        ReadsNoGlob w.clause := by
    intro clause hclause text w hw
    obtain ⟨t, -, rfl⟩ := List.mem_map.1 hw
    exact readsNoGlob_readyClause (hclause t)
  unfold clausesAfter
  simp only [List.forall_mem_append, List.forall_mem_cons]
  refine ⟨⟨⟨⟨⟨?_, ?_⟩, ?_, ?_, ?_, ?_, List.forall_mem_nil _⟩, ?_⟩, ?_⟩,
    readsNoGlob_severityClause _, List.forall_mem_nil _⟩
  · exact readsNoGlob_listClauses _ (readsNoGlob_patternClause fun _ => rfl) _
  · exact readsNoGlob_listClauses _ (readsNoGlob_patternClause fun _ => rfl) _
  · exact readsNoGlob_tableClause _ (fun _ => rfl) _
  · exact readsNoGlob_tableClause _ (fun _ => rfl) _
  · exact readsNoGlob_tableClause _ (fun _ => rfl) _
  · exact readsNoGlob_tableClause _ (fun _ => rfl) _
  · exact htext (fun _ => rfl) e.errorTip
  · exact htext (fun _ => rfl) e.errorIdentifier

/-- The clauses of an entry at two roots. -/
theorem clauses_relocated (hroot : root.path.IsPlain) (hroot' : root'.path.IsPlain)
    (calls : List String) {e : RuleEntry} (h : e.StaysInside) :
    List.Forall₂ (WrittenClause.Relocated root root') (e.clauses root calls)
      (e.clauses root' calls) := by
  -- Only the two lists of globs are read with the root.
  rw [clauses_eq, clauses_eq]
  refine List.rel_append (forall₂_relocated_same (readsNoGlob_clausesBefore calls e)) ?_
  refine List.rel_append ?_ (List.rel_append ?_ ?_)
  · refine listClauses_relocated _ fun text htext => ?_
    exact globClause_relocated hroot hroot' (fun _ _ hg => .allowIn hg)
      (h text (List.mem_append_left _ htext))
  · refine listClauses_relocated _ fun text htext => ?_
    exact globClause_relocated hroot hroot' (fun _ _ hg => .allowExceptIn hg)
      (h text (List.mem_append_right _ htext))
  · exact forall₂_relocated_same (readsNoGlob_clausesAfter e)

/-- The rule of an entry at two roots. -/
theorem rule_relocated (hroot : root.path.IsPlain) (hroot' : root'.path.IsPlain) (kind : RuleKind)
    {e : RuleEntry} (h : e.StaysInside) :
    SameOutcome SameFault (Rule.Relocated root root') (e.rule root kind) (e.rule root' kind) := by
  unfold rule
  cases e.calls with
  | error cause => exact .error ⟨rfl, rfl⟩
  | ok calls =>
    dsimp only
    rcases (readClauses_relocated (clauses_relocated hroot hroot' calls h)).ok_or_error with
      ⟨clauses, clauses', hread, hread', hclauses⟩ | ⟨e, e', hread, hread', hfault⟩
    · rw [hread, hread']
      dsimp only
      rcases (Rule.assemble_relocated kind hclauses).ok_or_error with
        ⟨r, r', hmade, hmade', hrule⟩ | ⟨fault, _, hmade, hmade', rfl⟩
      · rw [hmade, hmade']
        exact .ok hrule
      · rw [hmade, hmade']
        exact .error ⟨rfl, rfl⟩
    · rw [hread, hread']
      exact .error hfault

end RuleEntry

/-! ### Configurations -/

/-- The error without the position in the anchored glob: the same place, and the same cause. -/
def LoadError.withoutPosition : LoadError → LoadError
  | .malformed => .malformed
  | .invalid place cause => .invalid place cause.withoutPosition

/-- Errors that agree but for positions. -/
def LoadError.Same (e e' : LoadError) : Prop :=
  e.withoutPosition = e'.withoutPosition

theorem PlacedEntry.rule_relocated (hroot : root.path.IsPlain) (hroot' : root'.path.IsPlain)
    (p : PlacedEntry) (h : p.entry.StaysInside) :
    SameOutcome LoadError.Same (Rule.Relocated root root') (p.rule root) (p.rule root') := by
  unfold PlacedEntry.rule
  rcases (RuleEntry.rule_relocated hroot hroot' p.kind h).ok_or_error with
    ⟨r, r', hmade, hmade', hr⟩ | ⟨⟨part, cause⟩, ⟨_, cause'⟩, hmade, hmade', rfl, hcause⟩
  · rw [hmade, hmade']
    exact .ok hr
  · rw [hmade, hmade']
    exact .error (congrArg (LoadError.invalid _) hcause)

/-- Two rule sets that are the same but for relocated globs. -/
def RuleSet.Relocated (root root' : ProjectRoot) (s s' : RuleSet) : Prop :=
  List.Forall₂ (Rule.Relocated root root') s.rules s'.rules

namespace RuleDocument

/-- All globs of the configuration stay inside the root. -/
def StaysInside (d : RuleDocument) : Prop :=
  ∀ e ∈ d.methods ++ d.functions, e.StaysInside

/-- The entries are loaded one by one, each with the same outcome at both roots. -/
theorem ruleSet_relocated (hroot : root.path.IsPlain) (hroot' : root'.path.IsPlain)
    {d : RuleDocument} (h : d.StaysInside) :
    SameOutcome LoadError.Same (RuleSet.Relocated root root') (d.ruleSet root)
      (d.ruleSet root') := by
  have hinside : ∀ p ∈ d.placed, p.entry.StaysInside := by
    intro p hp
    refine h p.entry ?_
    rw [← map_entry_placed]
    exact List.mem_map_of_mem hp
  rw [ruleSet_eq, ruleSet_eq]
  exact (SameOutcome.mapM fun p hp => p.rule_relocated hroot hroot' (hinside p hp)).map
    fun _ _ hrules => hrules

end RuleDocument

/-- One text is loaded at both roots, or has the same error at both. -/
theorem loadRules_relocated (hroot : root.path.IsPlain) (hroot' : root'.path.IsPlain)
    {text : String}
    (h : ∀ d, Toml.parse? text.toList >>= RuleDocument.ofDatum? = some d → d.StaysInside) :
    SameOutcome LoadError.Same (RuleSet.Relocated root root') (loadRules root text)
      (loadRules root' text) := by
  unfold loadRules
  cases hread : Toml.parse? text.toList >>= RuleDocument.ofDatum? with
  | none => exact .error rfl
  | some d => exact RuleDocument.ruleSet_relocated hroot hroot' (h d hread)

end CallPolicy
