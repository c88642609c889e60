import CallPolicy.Engine.Basic
import CallPolicy.Proofs.Candidates
import CallPolicy.Proofs.Matching

namespace CallPolicy

/-!
# The evaluation of a call

`Engine.scan` goes through the candidates of a call and the rules about each, with a table of the
rules that were met. This file says what comes out, without the table.

* `Engine.Reports` — the rule of a finding reports the call under the candidate of the finding.
* `Engine.Precedes` — the order of reports: by candidate, then by rule.
* `Progress.Marks` — the invariant of the scan: the table holds exactly the rules that were met.
* `Engine.foldlM_visit` — visiting findings keeps the first of each rule and reports it unless
  the rule exempts the call.
* `Engine.yields_reports` — the diagnostics of a call are those of `Engine.reports`.
* `Engine.evaluate_reports` — the diagnostics of a call are the reports, in their order.
-/

/-! ### The table of rules met -/

/-- The table holds exactly the rules with the positions `met`. -/
def Progress.Marks (p : Progress) (met : Nat → Prop) : Prop :=
  ∀ i (h : i < p.reported.length), p.reported[i] = true ↔ met i

theorem Progress.Marks.congr {p : Progress} {met met' : Nat → Prop} (h : p.Marks met)
    (hiff : ∀ i, met i ↔ met' i) : p.Marks met' :=
  fun i hi => (h i hi).trans (hiff i)

namespace Engine

/-- The rule of the finding does not allow the call. -/
def forbids (e : Engine) (f : Finding) : Bool :=
  !(f.found.rule.judgeAt e.root f.call).isExempt

/-- A rule that was met before is passed over. -/
theorem visit_of_met (e : Engine) {p : Progress} {f : Finding} {met : Nat → Prop}
    (hmarks : p.Marks met) (hlt : f.found.index < p.reported.length) (hmet : met f.found.index) :
    e.visit p f = some p := by
  have htrue : p.reported[f.found.index] = true := (hmarks _ hlt).2 hmet
  unfold visit
  rw [List.getElem?_eq_getElem hlt, htrue]

/-- A rule that is met for the first time is marked, and reported if it forbids the call. -/
theorem visit_of_not_met (e : Engine) {p : Progress} {f : Finding} {met : Nat → Prop}
    (hmarks : p.Marks met) (hlt : f.found.index < p.reported.length)
    (hmet : ¬ met f.found.index) :
    ∃ q, e.visit p f = some q ∧ q.reported.length = p.reported.length ∧
      q.Marks (fun i => i = f.found.index ∨ met i) ∧
      q.diagnostics = p.diagnostics ++ if e.forbids f then [f.diagnostic] else [] := by
  have hfalse : p.reported[f.found.index] = false := by
    rw [← Bool.not_eq_true]
    exact fun h => hmet ((hmarks _ hlt).1 h)
  -- The rule is marked before its exemptions are looked at, so the table is the same either way.
  have hset : ∀ diagnostics, Progress.Marks ⟨p.reported.set f.found.index true, diagnostics⟩
      (fun i => i = f.found.index ∨ met i) := by
    intro diagnostics i hi
    rw [List.length_set] at hi
    rw [List.getElem_set]
    by_cases h : f.found.index = i
    · simp [h]
    · rw [if_neg h, hmarks i hi]
      exact ⟨Or.inr, fun hor => hor.resolve_left (Ne.symm h)⟩
  unfold visit forbids
  rw [List.getElem?_eq_getElem hlt, hfalse]
  by_cases hexempt : (f.found.rule.judgeAt e.root f.call).isExempt = true
  · refine ⟨⟨p.reported.set f.found.index true, p.diagnostics⟩, ?_, by simp, hset _, ?_⟩
    · simp [hexempt]
    · simp [hexempt]
  · refine ⟨⟨p.reported.set f.found.index true, p.diagnostics ++ [f.diagnostic]⟩, ?_, by simp,
      hset _, ?_⟩
    · simp [hexempt]
    · simp [hexempt]

/-- **Visiting findings.** Of the findings of one rule the first counts, unless the rule was met
before. It is reported if the rule forbids the call. -/
theorem foldlM_visit (e : Engine) (findings : List Finding) {p : Progress} {seen : List Nat}
    (hmarks : p.Marks (· ∈ seen)) (hlt : ∀ f ∈ findings, f.found.index < p.reported.length) :
    ∃ q, findings.foldlM e.visit p = some q ∧ q.reported.length = p.reported.length ∧
      q.Marks (fun i => i ∈ seen ∨ ∃ f ∈ findings, f.found.index = i) ∧
      q.diagnostics = p.diagnostics ++
        ((distinctFrom (·.found.index) seen findings).filter e.forbids).map Finding.diagnostic := by
  induction findings generalizing p seen with
  | nil => exact ⟨p, rfl, rfl, by simpa using hmarks, by simp [distinctFrom]⟩
  | cons f rest ih =>
    have hf : f.found.index < p.reported.length := hlt f List.mem_cons_self
    rw [List.foldlM_cons, distinctFrom]
    by_cases hseen : f.found.index ∈ seen
    -- The finding is passed over: nothing changes, and no rule is met that was not.
    · have hrest : ∀ g ∈ rest, g.found.index < p.reported.length :=
        fun g hg => hlt g (List.mem_cons_of_mem f hg)
      obtain ⟨q, hq, hlen, hqmarks, hdiag⟩ := ih hmarks hrest
      rw [e.visit_of_met hmarks hf hseen, if_pos (List.contains_iff_mem.2 hseen)]
      refine ⟨q, hq, hlen, hqmarks.congr fun i => ?_, hdiag⟩
      rw [List.exists_mem_cons_iff]
      constructor
      · exact fun h => h.imp_right Or.inr
      · rintro (h | rfl | h)
        · exact Or.inl h
        · exact Or.inl hseen
        · exact Or.inr h
    -- The finding counts: the rest is visited with its rule met and its report in front.
    · obtain ⟨p', hp', hlen', hmarks', hdiag'⟩ := e.visit_of_not_met hmarks hf hseen
      have hcons : p'.Marks (· ∈ f.found.index :: seen) :=
        hmarks'.congr fun i => List.mem_cons.symm
      have hrest : ∀ g ∈ rest, g.found.index < p'.reported.length :=
        fun g hg => hlen' ▸ hlt g (List.mem_cons_of_mem f hg)
      obtain ⟨q, hq, hlen, hqmarks, hdiag⟩ := ih hcons hrest
      have hnot : ¬ seen.contains f.found.index = true :=
        fun h => hseen (List.contains_iff_mem.1 h)
      rw [hp', if_neg hnot, List.filter_cons]
      refine ⟨q, hq, hlen.trans hlen', hqmarks.congr fun i => ?_, ?_⟩
      · rw [List.exists_mem_cons_iff, List.mem_cons, or_assoc, or_left_comm]
        exact or_congr_right (or_congr_left eq_comm)
      · rw [hdiag, hdiag', List.append_assoc]
        congr 1
        split <;> rfl

/-! ### All findings of a call, with the positions of their candidates -/

/-- The findings of a call, each with the position of its candidate. -/
def matchesAt (e : Engine) (call : CallSite) : List (Nat × Finding) :=
  call.candidates.zipIdx.flatMap fun p => (e.findingsUnder call p.1).map fun f => (p.2, f)

/-- An earlier candidate, or an earlier rule under the same candidate. -/
def Precedes (a b : Nat × Finding) : Prop :=
  a.1 < b.1 ∨ a.1 = b.1 ∧ a.2.found.index < b.2.found.index

theorem not_precedes_of_precedes (a b : Nat × Finding) (h : Precedes a b) : ¬ Precedes b a := by
  unfold Precedes at h ⊢
  omega

theorem map_snd_matchesAt (e : Engine) (call : CallSite) :
    (e.matchesAt call).map (·.2) = e.matchesOf call := by
  unfold matchesAt matchesOf
  conv_rhs => rw [← List.zipIdx_map_fst 0 call.candidates, List.flatMap_map]
  rw [List.map_flatMap]
  simp [Function.comp_def]

theorem mem_findingsUnder_iff (e : Engine) (call : CallSite) (s : Symbol) (f : Finding) :
    f ∈ e.findingsUnder call s ↔
      f.call = call ∧ f.candidate = s ∧ f.found ∈ e.rules.matchesFor call.kind s := by
  unfold findingsUnder
  rw [List.mem_map]
  constructor
  · rintro ⟨found, hfound, rfl⟩
    exact ⟨rfl, rfl, hfound⟩
  · rintro ⟨rfl, rfl, hfound⟩
    exact ⟨f.found, hfound, rfl⟩

theorem mem_matchesAt_iff (e : Engine) (call : CallSite) (k : Nat) (f : Finding) :
    (k, f) ∈ e.matchesAt call ↔
      f.call = call ∧ call.candidates[k]? = some f.candidate ∧
        e.rules.rules[f.found.index]? = some f.found.rule ∧
        f.found.rule.kind.appliesTo call.kind = true ∧
        (∀ q ∈ f.found.rule.excludes, q.covers f.candidate = false) ∧
        f.found.rule.FirstPattern f.candidate f.found.pattern := by
  unfold matchesAt
  rw [List.mem_flatMap, ← Rule.matchingPattern?_eq_some_iff]
  constructor
  · rintro ⟨⟨s, j⟩, hs, hmem⟩
    obtain ⟨g, hg, heq⟩ := List.mem_map.1 hmem
    obtain ⟨rfl, rfl⟩ := Prod.mk.inj heq
    obtain ⟨hcall, rfl, hfound⟩ := (e.mem_findingsUnder_iff call s g).1 hg
    exact ⟨hcall, List.mk_mem_zipIdx_iff_getElem?.1 hs, (RuleSet.mem_matchesFor_iff ..).1 hfound⟩
  · rintro ⟨hcall, hs, hfound⟩
    refine ⟨(f.candidate, k), List.mk_mem_zipIdx_iff_getElem?.2 hs, List.mem_map.2 ⟨f, ?_, rfl⟩⟩
    rw [mem_findingsUnder_iff, RuleSet.mem_matchesFor_iff]
    exact ⟨hcall, rfl, hfound⟩

/-- The findings of a call come in the order of candidates, then of rules. -/
theorem pairwise_matchesAt (e : Engine) (call : CallSite) :
    (e.matchesAt call).Pairwise Precedes := by
  unfold matchesAt
  rw [List.pairwise_flatMap]
  constructor
  · rintro ⟨s, k⟩ -
    unfold findingsUnder
    rw [List.pairwise_map, List.pairwise_map]
    exact (e.rules.pairwise_matchesFor call.kind s).imp fun h => Or.inr ⟨rfl, h⟩
  · have hpos : call.candidates.zipIdx.Pairwise (·.2 < ·.2) := by
      rw [← List.pairwise_map, List.zipIdx_map_snd]
      exact List.pairwise_lt_range'
    refine hpos.imp ?_
    intro a b hab x hx y hy
    obtain ⟨f, -, rfl⟩ := List.mem_map.1 hx
    obtain ⟨g, -, rfl⟩ := List.mem_map.1 hy
    exact Or.inl hab

/-! ### The reports of a call -/

/-- The rule of the finding reports the call under the candidate of the finding, which has the
position `k`: the candidate is the first that the rule is about, the pattern is its first
pattern for it, and the rule does not allow the call. -/
structure Reports (e : Engine) (call : CallSite) (k : Nat) (f : Finding) : Prop where
  ofCall : f.call = call
  candidate : call.candidates[k]? = some f.candidate
  rule : e.rules.rules[f.found.index]? = some f.found.rule
  applies : f.found.rule.kind.appliesTo call.kind = true
  about : f.found.rule.IsAbout f.candidate
  first : ∀ j < k, ∀ s, call.candidates[j]? = some s → ¬ f.found.rule.IsAbout s
  pattern : f.found.rule.FirstPattern f.candidate f.found.pattern
  forbidden : (f.found.rule.judgeAt e.root call).isExempt = false

/-- The reports of a call: of the findings of each rule the first, unless it exempts the call. -/
def reports (e : Engine) (call : CallSite) : List (Nat × Finding) :=
  (distinctBy (·.2.found.index) (e.matchesAt call)).filter fun p => e.forbids p.2

/-- A rule has no earlier finding exactly if it is about no earlier candidate. -/
theorem index_ne_of_precedes_iff (e : Engine) {call : CallSite} {k : Nat} {f : Finding}
    (h : (k, f) ∈ e.matchesAt call) :
    (∀ p ∈ e.matchesAt call, Precedes p (k, f) → p.2.found.index ≠ f.found.index) ↔
      ∀ j < k, ∀ s, call.candidates[j]? = some s → ¬ f.found.rule.IsAbout s := by
  obtain ⟨hcall, -, hrule, happlies, -, -⟩ := (e.mem_matchesAt_iff call k f).1 h
  constructor
  -- The rule has a finding under every candidate that it is about.
  · intro hne j hj s hs habout
    obtain ⟨pattern, hpattern⟩ := Rule.exists_firstPattern habout
    let g : Finding := ⟨call, s, ⟨f.found.index, f.found.rule, pattern⟩⟩
    have hg : (j, g) ∈ e.matchesAt call :=
      (e.mem_matchesAt_iff call j g).2 ⟨rfl, hs, hrule, happlies, habout.2, hpattern⟩
    exact hne (j, g) hg (Or.inl hj) rfl
  -- Under one candidate a rule has one finding, so an earlier one has an earlier candidate.
  · rintro hfirst ⟨j, g⟩ hg hprecedes hindex
    obtain ⟨-, hs, hrule', -, hexcludes, hpattern⟩ := (e.mem_matchesAt_iff call j g).1 hg
    have hjk : j < k := by
      unfold Precedes at hprecedes
      dsimp only at hprecedes hindex
      omega
    have hsame : g.found.rule = f.found.rule := by
      dsimp only at hindex
      rw [hindex, hrule] at hrule'
      exact (Option.some.inj hrule').symm
    have habout := Rule.isAbout_of_firstPattern hexcludes hpattern
    exact hfirst j hjk _ hs (hsame ▸ habout)

theorem mem_reports_iff (e : Engine) (call : CallSite) (k : Nat) (f : Finding) :
    (k, f) ∈ e.reports call ↔ e.Reports call k f := by
  unfold reports
  rw [List.mem_filter,
    mem_distinctBy_iff_of_pairwise (e.pairwise_matchesAt call) not_precedes_of_precedes]
  constructor
  · rintro ⟨⟨hmem, hne⟩, hforbids⟩
    have hfirst := (e.index_ne_of_precedes_iff hmem).1 hne
    obtain ⟨hcall, hs, hrule, happlies, hexcludes, hpattern⟩ :=
      (e.mem_matchesAt_iff call k f).1 hmem
    refine ⟨hcall, hs, hrule, happlies, Rule.isAbout_of_firstPattern hexcludes hpattern, hfirst,
      hpattern, ?_⟩
    simpa [forbids, hcall] using hforbids
  · intro h
    have hmem : (k, f) ∈ e.matchesAt call :=
      (e.mem_matchesAt_iff call k f).2
        ⟨h.ofCall, h.candidate, h.rule, h.applies, h.about.2, h.pattern⟩
    refine ⟨⟨hmem, (e.index_ne_of_precedes_iff hmem).2 h.first⟩, ?_⟩
    simpa [forbids, h.ofCall] using h.forbidden

theorem pairwise_reports (e : Engine) (call : CallSite) : (e.reports call).Pairwise Precedes :=
  ((e.pairwise_matchesAt call).sublist (distinctFrom_sublist [] _)).filter _

/-- No rule reports a call twice. -/
theorem nodup_index_reports (e : Engine) (call : CallSite) :
    ((e.reports call).map (·.2.found.index)).Nodup :=
  (nodup_map_key_distinctBy _).sublist (List.filter_sublist.map _)

/-- A rule is met exactly if it applies to the call and is about a candidate. -/
theorem exists_mem_matchesOf_iff (e : Engine) (call : CallSite) (i : Nat) :
    (∃ f ∈ e.matchesOf call, f.found.index = i) ↔
      ∃ r, e.rules.rules[i]? = some r ∧ r.kind.appliesTo call.kind = true ∧
        ∃ s ∈ call.candidates, r.IsAbout s := by
  rw [← map_snd_matchesAt]
  constructor
  · rintro ⟨f, hf, rfl⟩
    obtain ⟨⟨k, f⟩, hkf, rfl⟩ := List.mem_map.1 hf
    obtain ⟨-, hs, hrule, happlies, hexcludes, hpattern⟩ := (e.mem_matchesAt_iff call k f).1 hkf
    exact ⟨_, hrule, happlies, f.candidate, List.mem_of_getElem? hs,
      Rule.isAbout_of_firstPattern hexcludes hpattern⟩
  · rintro ⟨r, hr, happlies, s, hs, habout⟩
    obtain ⟨k, hk⟩ := List.mem_iff_getElem?.1 hs
    obtain ⟨p, hp⟩ := Rule.exists_firstPattern habout
    have hmem : (k, Finding.mk call s ⟨i, r, p⟩) ∈ e.matchesAt call :=
      (e.mem_matchesAt_iff ..).2 ⟨rfl, hk, hr, happlies, habout.2, hp⟩
    exact ⟨_, List.mem_map.2 ⟨_, hmem, rfl⟩, rfl⟩

/-- A rule reports the call exactly if it applies to it, is about a candidate, and forbids it. -/
theorem exists_mem_reports_iff (e : Engine) (call : CallSite) {i : Nat} {r : Rule}
    (hr : e.rules.rules[i]? = some r) :
    (∃ p ∈ e.reports call, p.2.found.index = i) ↔
      r.kind.appliesTo call.kind = true ∧ (∃ s ∈ call.candidates, r.IsAbout s) ∧
        (r.judgeAt e.root call).isExempt = false := by
  constructor
  · rintro ⟨⟨k, f⟩, hmem, rfl⟩
    have h := (e.mem_reports_iff call k f).1 hmem
    obtain rfl : f.found.rule = r := Option.some.inj (h.rule.symm.trans hr)
    exact ⟨h.applies, ⟨f.candidate, List.mem_of_getElem? h.candidate, h.about⟩, h.forbidden⟩
  · rintro ⟨happlies, hcandidate, hforbidden⟩
    obtain ⟨f, hf, rfl⟩ := (e.exists_mem_matchesOf_iff call i).2 ⟨r, hr, happlies, hcandidate⟩
    -- The first finding of the rule is kept, and every finding of the rule is judged alike.
    rw [← map_snd_matchesAt] at hf
    obtain ⟨p, hp, rfl⟩ := List.mem_map.1 hf
    have hkey : p.2.found.index ∈
        (distinctBy (fun q => q.2.found.index) (e.matchesAt call)).map (·.2.found.index) :=
      mem_map_key_distinctBy.2 (List.mem_map_of_mem hp)
    obtain ⟨⟨k, g⟩, hg, hindex⟩ := List.mem_map.1 hkey
    refine ⟨(k, g), List.mem_filter.2 ⟨hg, ?_⟩, hindex⟩
    obtain ⟨hcall, -, hrule, -⟩ :=
      (e.mem_matchesAt_iff call k g).1 ((distinctFrom_sublist [] _).subset hg)
    rw [hindex, hr] at hrule
    obtain rfl := Option.some.inj hrule
    simpa [forbids, hcall] using hforbidden

/-- Two calls whose candidates are related one by one, and have related findings under related
candidates, have related reports under candidates in the same places. -/
theorem forall₂_reports {S : Symbol → Symbol → Prop} {R : Finding → Finding → Prop} {e e' : Engine}
    {call call' : CallSite} (hcandidates : List.Forall₂ S call.candidates call'.candidates)
    (hfindings : ∀ s s', S s s' →
      List.Forall₂ R (e.findingsUnder call s) (e'.findingsUnder call' s'))
    (hindex : ∀ f f', R f f' → f.found.index = f'.found.index)
    (hforbids : ∀ f f', R f f' → e.forbids f = e'.forbids f') :
    List.Forall₂ (fun p p' : Nat × Finding => p.1 = p'.1 ∧ R p.2 p'.2) (e.reports call)
      (e'.reports call') := by
  have hmatches : List.Forall₂ (fun p p' : Nat × Finding => p.1 = p'.1 ∧ R p.2 p'.2)
      (e.matchesAt call) (e'.matchesAt call') := by
    unfold matchesAt
    refine List.rel_flatMap (forall₂_zipIdx hcandidates 0) ?_
    rintro ⟨s, k⟩ ⟨s', _⟩ ⟨hs, rfl⟩
    rw [List.forall₂_map_left_iff, List.forall₂_map_right_iff]
    exact (hfindings s s' hs).imp fun f f' hf => ⟨rfl, hf⟩
  unfold reports
  -- Findings of a rule that was met are dropped in the same places, and the rest is judged alike.
  refine List.rel_filter ?_ (forall₂_distinctFrom (fun p p' hp => hindex _ _ hp.2) hmatches [])
  rintro p p' ⟨-, hf⟩
  show e.forbids p.2 = true ↔ e'.forbids p'.2 = true
  rw [hforbids _ _ hf]

/-! ### What the scan amounts to -/

theorem marks_start (rs : RuleSet) : (Progress.start rs).Marks (· ∈ ([] : List Nat)) := by
  intro i hi
  simp [Progress.start]

/-- The scan of a call ends with the rules met in its table, and the reports of the call. -/
theorem scan_eq_some (e : Engine) (call : CallSite) :
    ∃ p, e.scan call = some p ∧ p.reported.length = e.rules.rules.length ∧
      p.Marks (fun i => ∃ f ∈ e.matchesOf call, f.found.index = i) ∧
      p.diagnostics = (e.reports call).map (·.2.diagnostic) := by
  have hlt : ∀ f ∈ e.matchesOf call, f.found.index < (Progress.start e.rules).reported.length := by
    intro f hf
    simpa [Progress.start] using index_lt_of_mem_matchesOf hf
  obtain ⟨p, hp, hlen, hmarks, hdiag⟩ := e.foldlM_visit _ (marks_start e.rules) hlt
  refine ⟨p, by rw [scan_eq_foldlM, hp], by simpa [Progress.start] using hlen,
    hmarks.congr fun i => by simp, ?_⟩
  -- The positions of the candidates play no part in what is kept.
  have hmap : distinctFrom (·.found.index) [] (e.matchesOf call) =
      (distinctBy (fun q => q.2.found.index) (e.matchesAt call)).map (·.2) := by
    rw [← map_snd_matchesAt, distinctFrom_map]
    rfl
  rw [hdiag, hmap, List.filter_map, List.map_map]
  rfl

theorem evaluate_eq_of_scan {e : Engine} {call : CallSite} {p : Progress}
    (h : e.scan call = some p) : e.evaluate call = p.diagnostics := by
  unfold evaluate
  simp [h]

/-- The findings are the reports of the call, each with the position of its candidate, in their
order, and the diagnostics of the call are theirs. -/
structure Yields (e : Engine) (call : CallSite) (hits : List (Nat × Finding)) : Prop where
  diagnostics : e.evaluate call = hits.map (·.2.diagnostic)
  mem_iff : ∀ k f, (k, f) ∈ hits ↔ e.Reports call k f
  ordered : hits.Pairwise Precedes

theorem yields_reports (e : Engine) (call : CallSite) : e.Yields call (e.reports call) := by
  obtain ⟨p, hp, -, -, hdiagnostics⟩ := e.scan_eq_some call
  exact ⟨(evaluate_eq_of_scan hp).trans hdiagnostics, e.mem_reports_iff call,
    e.pairwise_reports call⟩

/-- **The diagnostics of a call.** The candidates are the declared names without those whose key
occurs earlier. The scan never looks beyond its table and marks exactly the rules that are about
a candidate. The diagnostics are those of the reports, in the order of candidates, then of rules,
one for each rule that applies to the call, is about a candidate and forbids the call. -/
theorem evaluate_reports (e : Engine) (call : CallSite) :
    (call.candidates = (call.declared.zipIdx.filter fun p =>
        !((call.declared.take p.2).map (·.key)).contains p.1.key).map (·.1) ∧
      (call.candidates.map (·.key)).Nodup ∧
      (∀ s ∈ call.declared, ∃ c ∈ call.candidates, c.key = s.key) ∧
      call.candidates.Sublist call.declared) ∧
    (∃ p, e.scan call = some p ∧ p.diagnostics = e.evaluate call ∧
      p.reported.length = e.rules.rules.length ∧
      p.Marks fun i => ∃ r, e.rules.rules[i]? = some r ∧ r.kind.appliesTo call.kind = true ∧
        ∃ s ∈ call.candidates, r.IsAbout s) ∧
    ∃ hits : List (Nat × Finding),
      e.evaluate call = hits.map (·.2.diagnostic) ∧
      (∀ k f, (k, f) ∈ hits ↔ e.Reports call k f) ∧
      hits.Pairwise Precedes ∧
      (hits.map (·.2.found.index)).Nodup ∧
      ∀ i r, e.rules.rules[i]? = some r →
        ((∃ p ∈ hits, p.2.found.index = i) ↔
          r.kind.appliesTo call.kind = true ∧ (∃ s ∈ call.candidates, r.IsAbout s) ∧
            (r.judgeAt e.root call).isExempt = false) := by
  obtain ⟨p, hp, hlen, hmarks, hdiag⟩ := e.scan_eq_some call
  have heval := evaluate_eq_of_scan hp
  refine ⟨⟨call.candidates_eq_filter, call.nodup_map_key_candidates, ?_, call.candidates_sublist⟩,
    ⟨p, hp, heval.symm, hlen, hmarks.congr (e.exists_mem_matchesOf_iff call)⟩,
    e.reports call, heval.trans hdiag, e.mem_reports_iff call, e.pairwise_reports call,
    e.nodup_index_reports call, fun i r hr => e.exists_mem_reports_iff call hr⟩
  intro s hs
  exact List.mem_map.1 ((call.mem_map_key_candidates s.key).2 (List.mem_map_of_mem hs))

end Engine

end CallPolicy
