import CallPolicy.Proofs.Candidates
import CallPolicy.Proofs.Matching
import CallPolicy.Proofs.WildcardPatterns

namespace CallPolicy

open Text SymbolPattern

/-!
# Patterns and the equality of symbols

Two symbols are the same if their keys are. A pattern with a wildcard does not look at the key but
at the scope and the member, so it may tell such symbols apart.

* `Symbol.covers_eq_iff_of_same` — patterns agree on two spellings of one symbol exactly if the same
  is visible of both.
* `Symbol.visible?_eq_of_plain` — which is so for plain names.
* `CallSite.KeepsMatches` — a rule about a declared symbol is about a candidate.
* `SymbolPattern.respects_same` — when patterns, and the candidates of a call, respect the equality
  of symbols.
* `SymbolPattern.not_respects_same` — they do not always.
-/

/-! ### Two spellings of one symbol -/

namespace Symbol

/-- Undecorating the name twice is no more than doing it once, and no capital sigma stands in the
name of a method. -/
def IsPlain (name : String) : Prop :=
  undecorate (undecorate name.toList) = undecorate name.toList ∧
    ((splitName (undecorate name.toList)).1.isClass = true → 'Σ' ∉ undecorate name.toList)

/-- Patterns agree on two spellings of one symbol exactly if the same is visible of both. -/
theorem covers_eq_iff_of_same {a b : Symbol} (ha : a.IsParsed) (hb : b.IsParsed)
    (hsame : a.same b = true) :
    (∀ p : SymbolPattern, p.IsAccepted → p.covers a = p.covers b) ↔ a.visible? = b.visible? := by
  constructor
  · intro hagree
    -- What is visible of one symbol is asked of the other.
    have hstem : ∀ {x y : Symbol}, x.IsParsed →
        (∀ p : SymbolPattern, p.IsAccepted → p.covers x = p.covers y) →
        ∀ {scope member}, x.visible? = some (scope, member) →
          ∃ member', y.visible? = some (scope, member') ∧ member <+: member' := by
      intro x y hx hxy scope member hvisible
      obtain ⟨p, hp, hcovers⟩ := exists_stem_pattern hx hvisible
      rw [← hcovers, ← hxy p hp, hcovers]
      exact ⟨member, hvisible, List.prefix_refl member⟩
    have hagree' : ∀ p : SymbolPattern, p.IsAccepted → p.covers b = p.covers a :=
      fun p hp => (hagree p hp).symm
    cases hvisible : a.visible? with
    | some seen =>
      obtain ⟨scope, member⟩ := seen
      obtain ⟨member', hvisible', hprefix⟩ := hstem ha hagree hvisible
      obtain ⟨member'', hvisible'', hprefix'⟩ := hstem hb hagree' hvisible'
      rw [hvisible] at hvisible''
      obtain ⟨-, rfl⟩ := Prod.mk.inj (Option.some.inj hvisible'')
      rw [hvisible', hprefix.eq_of_length_le hprefix'.length_le]
    | none =>
      cases hvisible' : b.visible? with
      | none => rfl
      | some seen =>
        obtain ⟨scope, member⟩ := seen
        obtain ⟨member', hseen, -⟩ := hstem hb hagree' hvisible'
        rw [hvisible] at hseen
        cases hseen
  · intro hvisible p hp
    exact covers_eq_of_visible_eq hp (beq_iff_eq.1 hsame) hvisible

/-- The same is visible of two plain spellings of one symbol. -/
theorem visible?_eq_of_plain {nameA nameB : String} {kindA kindB : SymbolKind} {a b : Symbol}
    (ha : Symbol.parse nameA kindA = .ok a) (hb : Symbol.parse nameB kindB = .ok b)
    (hplainA : IsPlain nameA) (hplainB : IsPlain nameB) (hsame : a.same b = true) :
    a.visible? = b.visible? := by
  obtain ⟨hsplitA, -, hkeyA⟩ := parse_eq_ok ha
  obtain ⟨hsplitB, -, hkeyB⟩ := parse_eq_ok hb
  -- The key of a plain name is the name itself in lower case, and splits as the name does.
  have hlower : lower (undecorate nameA.toList) = lower (undecorate nameB.toList) := by
    have hkey : a.key = b.key := beq_iff_eq.1 hsame
    rw [hkeyA, hkeyB, comparisonKey, comparisonKey, hplainA.1, hplainB.1] at hkey
    simpa using congrArg String.toList hkey
  have hpartsA := splitName_lower hplainA.2
  have hpartsB := splitName_lower hplainB.2
  rw [hlower, hpartsB, hsplitA, hsplitB] at hpartsA
  obtain ⟨hscope, hmember⟩ := Prod.mk.inj hpartsA
  have hspecial : a.scope.hasSpecial = b.scope.hasSpecial := by
    rw [← Scope.hasSpecial_lower a.scope, ← hscope, Scope.hasSpecial_lower]
  rw [visible?, visible?, hspecial, hscope, hmember]

end Symbol

/-! ### The candidates of a call -/

namespace Rule

/-- The rule is built from accepted patterns. -/
def IsAccepted (r : Rule) : Prop :=
  (∃ kind clauses, Rule.assemble kind clauses = .ok r) ∧
    ∀ p ∈ r.calls ++ r.excludes, p.IsAccepted

/-- An accepted rule is about both of two symbols, or neither, that have one key and look alike. -/
theorem isAbout_iff_of_visible_eq {r : Rule} (hr : r.IsAccepted) {a b : Symbol}
    (hkey : a.key = b.key) (hvisible : a.visible? = b.visible?) : r.IsAbout a ↔ r.IsAbout b := by
  have hcovers : ∀ p ∈ r.calls ++ r.excludes, p.covers a = p.covers b :=
    fun p hp => covers_eq_of_visible_eq (hr.2 p hp) hkey hvisible
  have hcalls : ∀ p ∈ r.calls, p.covers a = p.covers b :=
    fun p hp => hcovers p (List.mem_append_left _ hp)
  have hexcludes : ∀ p ∈ r.excludes, p.covers a = p.covers b :=
    fun p hp => hcovers p (List.mem_append_right _ hp)
  unfold IsAbout
  constructor
  · rintro ⟨⟨p, hp, hmatch⟩, hnone⟩
    exact ⟨⟨p, hp, hcalls p hp ▸ hmatch⟩, fun q hq => hexcludes q hq ▸ hnone q hq⟩
  · rintro ⟨⟨p, hp, hmatch⟩, hnone⟩
    exact ⟨⟨p, hp, (hcalls p hp).symm ▸ hmatch⟩, fun q hq => (hexcludes q hq).symm ▸ hnone q hq⟩

/-- The rule about the calls that `p` matches, except for some. -/
def matching (p : SymbolPattern) (excludes : List SymbolPattern) : Rule :=
  { Rule.blank .method with calls := [p], excludes }

theorem foldl_extend_exclude (r : Rule) (excludes : List SymbolPattern) :
    (excludes.map Clause.exclude).foldl Rule.extend r =
      { r with excludes := r.excludes ++ excludes } := by
  induction excludes generalizing r with
  | nil => simp
  | cons p rest ih =>
    rw [List.map_cons, List.foldl_cons, ih]
    simp [extend]

theorem isAccepted_matching {p : SymbolPattern} {excludes : List SymbolPattern}
    (hp : p.IsAccepted) (hexcludes : ∀ q ∈ excludes, q.IsAccepted) :
    (matching p excludes).IsAccepted := by
  refine ⟨⟨.method, .call p :: excludes.map .exclude, ?_⟩, ?_⟩
  · have hfold : (Clause.call p :: excludes.map .exclude).foldl extend (blank .method) =
        matching p excludes := by
      rw [List.foldl_cons, foldl_extend_exclude]
      rfl
    rw [assemble, hfold]
    rfl
  · intro q hq
    rcases List.mem_cons.1 hq with rfl | hq
    · exact hp
    · exact hexcludes q hq

theorem isAbout_matching_iff (p : SymbolPattern) (excludes : List SymbolPattern) (s : Symbol) :
    (matching p excludes).IsAbout s ↔
      p.covers s = true ∧ ∀ q ∈ excludes, q.covers s = false := by
  unfold IsAbout
  simp [matching]

end Rule

namespace CallSite

/-- A rule that is about a declared symbol of the call is about one of its candidates. -/
def KeepsMatches (call : CallSite) (r : Rule) : Prop :=
  (∃ s ∈ call.declared, (r.matchingPattern? s).isSome) ↔
    ∃ s ∈ call.candidates, (r.matchingPattern? s).isSome

theorem exists_candidate {call : CallSite} {s : Symbol} (hs : s ∈ call.declared) :
    ∃ t ∈ call.candidates, t.key = s.key := by
  have hkey : s.key ∈ call.declared.map (·.key) := List.mem_map_of_mem hs
  rw [← mem_map_key_candidates] at hkey
  exact List.mem_map.1 hkey

theorem mem_declared {call : CallSite} {s : Symbol} (hs : s ∈ call.candidates) :
    s ∈ call.declared :=
  (candidates_sublist call).subset hs

/-- No match is lost where symbols of one key look alike. -/
theorem keepsMatches_of_visible {call : CallSite}
    (hvisible : ∀ s ∈ call.declared, ∀ t ∈ call.declared, s.same t = true →
      s.visible? = t.visible?) {r : Rule} (hr : r.IsAccepted) : call.KeepsMatches r := by
  constructor
  · rintro ⟨s, hs, hmatch⟩
    obtain ⟨t, ht, hkey⟩ := exists_candidate hs
    have hseen := hvisible t (mem_declared ht) s hs (beq_iff_eq.2 hkey)
    rw [Rule.matchingPattern?_isSome_iff, ← Rule.isAbout_iff_of_visible_eq hr hkey hseen] at hmatch
    exact ⟨t, ht, (Rule.matchingPattern?_isSome_iff r t).2 hmatch⟩
  · rintro ⟨s, hs, hmatch⟩
    exact ⟨s, mem_declared hs, hmatch⟩

theorem eq_of_mem_candidates {call : CallSite} {s t : Symbol} (hs : s ∈ call.candidates)
    (ht : t ∈ call.candidates) (hkey : s.key = t.key) : s = t :=
  List.inj_on_of_nodup_map (nodup_map_key_candidates call) hs ht hkey

/-- Patterns for the keys of some symbols. -/
theorem exists_key_patterns (items : List Symbol)
    (hnames : ∀ s ∈ items, s.IsParsed ∧ s.IsNameable) :
    ∃ patterns : List SymbolPattern, (∀ q ∈ patterns, q.IsAccepted) ∧
      ∀ u : Symbol, (∃ q ∈ patterns, q.covers u = true) ↔ u.key ∈ items.map (·.key) := by
  induction items with
  | nil => exact ⟨[], nofun, fun u => by simp⟩
  | cons s rest ih =>
    obtain ⟨patterns, haccepted, hcovers⟩ := ih fun t ht => hnames t (List.mem_cons_of_mem s ht)
    obtain ⟨hparsed, hname⟩ := hnames s List.mem_cons_self
    obtain ⟨p, hp, hkey⟩ := Symbol.exists_key_pattern hparsed hname
    refine ⟨p :: patterns, List.forall_mem_cons.2 ⟨hp, haccepted⟩, fun u => ?_⟩
    rw [List.exists_mem_cons_iff, hkey, hcovers, List.map_cons, List.mem_cons]

section

variable {call : CallSite} {s t : Symbol} (hs : s ∈ call.declared) (ht : t ∈ call.candidates)
  (hkey : t.key = s.key) (hkeeps : ∀ r : Rule, r.IsAccepted → call.KeepsMatches r)

include hs hkeeps

/-- A rule that is about a declared symbol and about no candidate would lose a match. -/
theorem exists_isAbout_of_keepsMatches {r : Rule} (hr : r.IsAccepted) (habout : r.IsAbout s) :
    ∃ u ∈ call.candidates, r.IsAbout u := by
  obtain ⟨u, hu, hmatch⟩ := (hkeeps r hr).1 ⟨s, hs, (Rule.matchingPattern?_isSome_iff r s).2 habout⟩
  exact ⟨u, hu, (Rule.matchingPattern?_isSome_iff r u).1 hmatch⟩

include ht hkey

/-- All patterns that see the candidate see the declared symbol: a rule could exclude the candidate
only. -/
theorem covers_of_keepsMatches (hparsed : s.IsParsed) (hname : s.IsNameable) {p : SymbolPattern}
    (hp : p.IsAccepted) (hcovers : p.covers t = true) : p.covers s = true := by
  by_contra hnot
  rw [Bool.not_eq_true] at hnot
  -- A rule for the key that excludes `p` is about the declared symbol, and about no candidate.
  obtain ⟨named, hnamed, hnamedCovers⟩ := Symbol.exists_key_pattern hparsed hname
  have hrule : (Rule.matching named [p]).IsAccepted :=
    Rule.isAccepted_matching hnamed (List.forall_mem_singleton.2 hp)
  have habout : (Rule.matching named [p]).IsAbout s :=
    (Rule.isAbout_matching_iff _ _ _).2
      ⟨(hnamedCovers s).2 rfl, List.forall_mem_singleton.2 hnot⟩
  obtain ⟨u, hu, haboutCandidate⟩ := exists_isAbout_of_keepsMatches hs hkeeps hrule habout
  obtain ⟨hcoversCandidate, hexcluded⟩ := (Rule.isAbout_matching_iff _ _ _).1 haboutCandidate
  obtain rfl := eq_of_mem_candidates hu ht (((hnamedCovers u).1 hcoversCandidate).trans hkey.symm)
  rw [List.forall_mem_singleton.1 hexcluded] at hcovers
  cases hcovers

/-- All patterns that see the declared symbol see the candidate: a rule could exclude the other
candidates. -/
theorem covers_candidate_of_keepsMatches
    (hnames : ∀ u ∈ call.declared, u.IsParsed ∧ u.IsNameable) {p : SymbolPattern}
    (hp : p.IsAccepted) (hcovers : p.covers s = true) : p.covers t = true := by
  -- A rule for `p` that excludes the candidates of all other keys is about the declared symbol.
  obtain ⟨others, haccepted, hothers⟩ :=
    exists_key_patterns (call.candidates.filter fun u => u.key != s.key)
      fun u hu => hnames u (mem_declared (List.mem_of_mem_filter hu))
  have hnotCovered : ∀ q ∈ others, q.covers s = false := by
    intro q hq
    by_contra hcovered
    rw [Bool.not_eq_false] at hcovered
    obtain ⟨u, hu, hukey⟩ := List.mem_map.1 ((hothers s).1 ⟨q, hq, hcovered⟩)
    simpa [hukey] using (List.mem_filter.1 hu).2
  obtain ⟨u, hu, habout⟩ := exists_isAbout_of_keepsMatches hs hkeeps
    (Rule.isAccepted_matching hp haccepted)
    ((Rule.isAbout_matching_iff _ _ _).2 ⟨hcovers, hnotCovered⟩)
  obtain ⟨hcoversCandidate, hnone⟩ := (Rule.isAbout_matching_iff _ _ _).1 habout
  -- The candidate is none of the others.
  have hukey : u.key = s.key := by
    by_contra hne
    have hmem : u.key ∈ (call.candidates.filter fun u => u.key != s.key).map (·.key) :=
      List.mem_map_of_mem (List.mem_filter.2 ⟨hu, by simpa using hne⟩)
    obtain ⟨q, hq, hcovered⟩ := (hothers u).2 hmem
    rw [hnone q hq] at hcovered
    cases hcovered
  obtain rfl := eq_of_mem_candidates hu ht (hukey.trans hkey.symm)
  exact hcoversCandidate

end

/-- A declared symbol looks like its candidate if no rule loses a match. -/
theorem visible?_eq_of_keepsMatches {call : CallSite}
    (hnames : ∀ u ∈ call.declared, u.IsParsed ∧ u.IsNameable)
    (hkeeps : ∀ r : Rule, r.IsAccepted → call.KeepsMatches r) {s t : Symbol}
    (hs : s ∈ call.declared) (ht : t ∈ call.candidates) (hkey : t.key = s.key) :
    t.visible? = s.visible? := by
  obtain ⟨hparsed, hname⟩ := hnames s hs
  have hparsedCandidate := (hnames t (mem_declared ht)).1
  refine (Symbol.covers_eq_iff_of_same hparsedCandidate hparsed (beq_iff_eq.2 hkey)).1 ?_
  intro p hp
  rw [Bool.eq_iff_iff]
  constructor
  · exact covers_of_keepsMatches hs ht hkey hkeeps hparsed hname hp
  · exact covers_candidate_of_keepsMatches hs ht hkey hkeeps hnames hp

end CallSite

/-! ### The law, and where it fails -/

namespace SymbolPattern

/-- **When patterns respect the equality of symbols.** Patterns agree on two spellings of one symbol
exactly if the same is visible of both; this holds for plain names. No rule loses a match to the
candidates of a call if it holds among the declared symbols, and only then if these are nameable. -/
theorem respects_same (a b : Symbol) (call : CallSite) :
    (a.IsParsed → b.IsParsed → a.same b = true →
      ((∀ p : SymbolPattern, p.IsAccepted → p.covers a = p.covers b) ↔
        a.visible? = b.visible?)) ∧
    (∀ (nameA nameB : String) (kindA kindB : SymbolKind),
      Symbol.parse nameA kindA = .ok a → Symbol.parse nameB kindB = .ok b →
      Symbol.IsPlain nameA → Symbol.IsPlain nameB → a.same b = true →
      a.visible? = b.visible?) ∧
    ((∀ s ∈ call.declared, ∀ t ∈ call.declared, s.same t = true → s.visible? = t.visible?) →
      ∀ r : Rule, r.IsAccepted → call.KeepsMatches r) ∧
    ((∀ s ∈ call.declared, s.IsParsed ∧ s.IsNameable) →
      (∀ r : Rule, r.IsAccepted → call.KeepsMatches r) →
      ∀ s ∈ call.declared, ∀ t ∈ call.declared, s.same t = true → s.visible? = t.visible?) := by
  refine ⟨fun ha hb hsame => Symbol.covers_eq_iff_of_same ha hb hsame, ?_, ?_, ?_⟩
  · intro nameA nameB kindA kindB ha hb hplainA hplainB hsame
    exact Symbol.visible?_eq_of_plain ha hb hplainA hplainB hsame
  · intro hvisible r hr
    exact CallSite.keepsMatches_of_visible hvisible hr
  · intro hnames hkeeps s hs t ht hsame
    have hkey : s.key = t.key := beq_iff_eq.1 hsame
    -- Both look like the one candidate of their key.
    obtain ⟨u, hu, hukey⟩ := CallSite.exists_candidate hs
    have hseen := CallSite.visible?_eq_of_keepsMatches hnames hkeeps hs hu hukey
    rw [← hseen]
    exact CallSite.visible?_eq_of_keepsMatches hnames hkeeps ht hu (hukey.trans hkey)

/-- What `Foo::bar` spells. -/
def fooBar : Symbol where
  kind := .staticMethod
  scope := .inClass "Foo"
  member := "bar"
  key := "foo::bar"

/-- What `\ Foo::bar` spells: the blank stays in the scope, but not in the key. -/
def fooBarBehindBlank : Symbol :=
  { fooBar with scope := .inClass " Foo" }

/-- What `Foo::*` is a pattern for. -/
def membersOfFoo : SymbolPattern where
  text := "Foo::*"
  symbols := .members (.inClass "foo") ""

/-- A call of a method that is declared under both spellings. -/
def callOfFooBar : CallSite where
  invoked := fooBar
  declaring := fooBarBehindBlank
  alsoDeclaredIn := [fooBar]
  caller := none
  file := "src/a.php"
  line := 1
  arguments := []

/-- Patterns agree on two plain spellings of one method, and no rule loses a match if it is declared
under both. -/
theorem respects_same_fooBar :
    ∃ a : Symbol, Symbol.parse "\\foo::BAR()" .staticMethod = .ok a ∧ a ≠ fooBar ∧
      (∀ p : SymbolPattern, p.IsAccepted → p.covers a = p.covers fooBar) ∧
      ∀ r : Rule, r.IsAccepted → { callOfFooBar with declaring := a }.KeepsMatches r := by
  let a : Symbol := ⟨.staticMethod, .inClass "foo", "BAR", "foo::bar"⟩
  have ha : Symbol.parse "\\foo::BAR()" .staticMethod = .ok a := rfl
  have hfooBar : Symbol.parse "Foo::bar" .staticMethod = .ok fooBar := rfl
  have hplain : Symbol.IsPlain "\\foo::BAR()" ∧ Symbol.IsPlain "Foo::bar" :=
    ⟨⟨rfl, fun _ => by decide⟩, ⟨rfl, fun _ => by decide⟩⟩
  obtain ⟨hagree, hplainAgree, hkeeps, -⟩ :=
    respects_same a fooBar { callOfFooBar with declaring := a }
  have hvisible : a.visible? = fooBar.visible? :=
    hplainAgree _ _ _ _ ha hfooBar hplain.1 hplain.2 rfl
  refine ⟨a, ha, by decide, (hagree ⟨_, _, ha⟩ ⟨_, _, hfooBar⟩ rfl).2 hvisible, hkeeps ?_⟩
  have hseen : ∀ s ∈ [a, fooBar], s.visible? = fooBar.visible? :=
    List.forall_mem_cons.2 ⟨hvisible, List.forall_mem_singleton.2 rfl⟩
  intro s hs t ht _
  rw [hseen s hs, hseen t ht]

/-- It is not true that patterns agree on all spellings of one symbol, nor that the candidates of a
call keep all matches. -/
theorem not_respects_same :
    (¬ ∀ (a b : Symbol) (p : SymbolPattern), a.IsParsed → b.IsParsed → p.IsAccepted →
      a.same b = true → p.covers a = p.covers b) ∧
    ¬ ∀ (call : CallSite) (r : Rule), (∀ s ∈ call.declared, s.IsParsed) → r.IsAccepted →
      call.KeepsMatches r := by
  have hfooBar : fooBar.IsParsed := ⟨"Foo::bar", .staticMethod, rfl⟩
  have hblank : fooBarBehindBlank.IsParsed := ⟨"\\ Foo::bar", .staticMethod, rfl⟩
  have hmembers : membersOfFoo.IsAccepted := ⟨"Foo::*", rfl⟩
  constructor
  · intro h
    have hcovers := h fooBar fooBarBehindBlank membersOfFoo hfooBar hblank hmembers rfl
    exact Bool.noConfusion hcovers
  · intro h
    have hrule := Rule.isAccepted_matching hmembers (List.forall_mem_nil _)
    have hparsed : ∀ s ∈ callOfFooBar.declared, s.IsParsed :=
      List.forall_mem_cons.2 ⟨hblank, List.forall_mem_singleton.2 hfooBar⟩
    obtain ⟨s, hs, hmatch⟩ := (h callOfFooBar _ hparsed hrule).1
      ⟨fooBar, List.mem_cons_of_mem _ List.mem_cons_self, rfl⟩
    have hcandidates : callOfFooBar.candidates = [fooBarBehindBlank] := by decide
    rw [hcandidates, List.mem_singleton] at hs
    subst hs
    exact Bool.noConfusion hmatch

end SymbolPattern

end CallPolicy
