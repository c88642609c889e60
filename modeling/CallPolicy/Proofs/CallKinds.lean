import CallPolicy.Call.Document
import CallPolicy.Proofs.Evaluation
import CallPolicy.Proofs.Outcome
import CallPolicy.Proofs.WildcardPatterns

namespace CallPolicy

open Text

/-!
# The kind of a call

An entry names the kind of its call, but its names tell whether they are of functions or of methods.
The kind only tells instance methods from static ones, and that shows in the identifier of a
diagnostic and nowhere else.

* `Symbol.Rekinded`, `CallSite.Rekinded` — symbols and calls that differ in the kind of method only.
* `Symbol.parse_rekinded`, `SiteEntry.site_rekinded` — names and entries of two kinds are refused
  alike, or spell such symbols and calls.
* `Symbol.isMethod_iff_of_parse` — a name is that of a method exactly if it holds `::`.
* `SymbolPattern.covers_rekinded`, `Rule.judgeAt_rekinded` — patterns and rules cannot tell such
  symbols and calls apart.
* `Finding.Agrees` — two findings that say the same, but for an identifier that no rule gives.
* `SiteEntry.evaluate_rekinded` — so an entry has the same diagnostics whatever its kind is.
-/

/-! ### Names -/

/-- A name is in a class exactly if it holds `::`. -/
theorem isClass_splitName_iff (cs : List Char) :
    (splitName cs).1.isClass = true ↔ [':', ':'] <:+: cs := by
  rcases splitName_cases cs with ⟨cls, member, hcut⟩ | ⟨hnone, space, member, hcut⟩ |
    ⟨hnone, hspace⟩
  · rw [splitName_of_class hcut]
    have hcs : cls ++ [':', ':'] ++ member = cs := (eq_append_of_splitLast? hcut).symm
    exact iff_of_true rfl ⟨cls, member, hcs⟩
  · rw [splitName_of_namespace hnone hcut]
    exact iff_of_false Bool.false_ne_true (splitLast?_eq_none_iff.1 hnone)
  · rw [splitName_of_global hnone hspace]
    exact iff_of_false Bool.false_ne_true (splitLast?_eq_none_iff.1 hnone)

/-- What stands around a name leaves open whether `::` is in it, as long as it has no colons. -/
theorem pair_infix_append_iff {front back : List Char} (hfront : ':' ∉ front) (hback : ':' ∉ back)
    (cs : List Char) : [':', ':'] <:+: front ++ cs ++ back ↔ [':', ':'] <:+: cs := by
  refine ⟨fun h => ?_, fun h => h.trans ⟨front, back, rfl⟩⟩
  contrapose h
  rw [← splitLast?_eq_none_iff] at h ⊢
  induction back using List.reverseRecOn with
  | nil => rwa [List.append_nil, splitLast?_append_eq_none_iff hfront]
  | append_singleton back c ih =>
    rw [List.mem_append, List.mem_singleton, not_or] at hback
    have hc : c ∉ [':', ':'] := by simpa using Ne.symm hback.2
    rw [← List.append_assoc]
    exact splitLast?_concat_eq_none (ih hback.1) hc

/-- A trimmed name is a bare one, with backslashes in front and blanks and brackets behind. -/
theorem exists_trim_eq (cs : List Char) :
    ∃ front back, trim cs = front ++ undecorate cs ++ back ∧ ':' ∉ front ∧ ':' ∉ back := by
  have htrim : ∀ xs : List Char, ∃ blanks, xs = trimEnd xs ++ blanks ∧ ':' ∉ blanks := by
    intro xs
    refine ⟨(xs.reverse.takeWhile isBlank).reverse, ?_, fun hmem => ?_⟩
    · rw [trimEnd, dropTrailing, ← List.reverse_append, List.takeWhile_append_dropWhile,
        List.reverse_reverse]
    · exact absurd (List.mem_takeWhile_imp (List.mem_reverse.1 hmem)) (by decide)
  have hstrip : ∀ xs : List Char, ∃ brackets, xs = (stripEnd? ['(', ')'] xs).getD xs ++ brackets ∧
      ':' ∉ brackets := by
    intro xs
    unfold stripEnd?
    split
    case isTrue hsuffix =>
      obtain ⟨front, rfl⟩ := List.isSuffixOf_iff_suffix.1 hsuffix
      exact ⟨['(', ')'], by simp, by decide⟩
    case isFalse => exact ⟨[], (List.append_nil xs).symm, List.not_mem_nil⟩
  obtain ⟨brackets, hbrackets, hfree⟩ := hstrip ((trim cs).dropWhile (· == '\\'))
  obtain ⟨blanks, hblanks, hnone⟩ :=
    htrim ((stripEnd? ['(', ')'] ((trim cs).dropWhile (· == '\\'))).getD
      ((trim cs).dropWhile (· == '\\')))
  refine ⟨(trim cs).takeWhile (· == '\\'), blanks ++ brackets, ?_, fun hmem => ?_, fun hmem => ?_⟩
  · rw [undecorate, List.append_assoc, ← List.append_assoc (trimEnd _), ← hblanks, ← hbrackets,
      List.takeWhile_append_dropWhile]
  · exact absurd (List.mem_takeWhile_imp hmem) (by decide)
  · exact (List.mem_append.1 hmem).elim hnone hfree

theorem pair_infix_undecorate_iff (cs : List Char) :
    [':', ':'] <:+: undecorate cs ↔ [':', ':'] <:+: trim cs := by
  obtain ⟨front, back, heq, hfront, hback⟩ := exists_trim_eq cs
  rw [heq, pair_infix_append_iff hfront hback]

namespace Symbol

/-- The symbols are the same, but for the kind of method. -/
structure Rekinded (s s' : Symbol) : Prop where
  isMethod : s.kind.isMethod = s'.kind.isMethod
  scope : s.scope = s'.scope
  member : s.member = s'.member
  key : s.key = s'.key

/-- Whatever the kind, a name is refused for the same reason, or spells the same symbol but for the
kind of method. -/
theorem parse_rekinded (name : String) (kind kind' : SymbolKind) :
    SameOutcome Eq Rekinded (parse name kind) (parse name kind') := by
  unfold parse
  dsimp only
  generalize undecorate name.toList = bare
  obtain ⟨scope, member⟩ := splitName bare
  refine .stop_if rfl (.stop_if rfl (.ok ⟨?_, rfl, rfl, rfl⟩))
  show (kindIn scope kind).isMethod = (kindIn scope kind').isMethod
  rw [isMethod_kindIn, isMethod_kindIn]

/-- A name is that of a method exactly if it holds `::`. -/
theorem isMethod_iff_of_parse {name : String} {kind : SymbolKind} {s : Symbol}
    (h : parse name kind = .ok s) :
    s.kind.isMethod = true ↔ [':', ':'] <:+: trim name.toList := by
  rw [isMethod_of_parse h, ← pair_infix_undecorate_iff, ← isClass_splitName_iff, (parse_eq_ok h).1]

theorem Rekinded.displayCall_eq {s s' : Symbol} (hs : s.Rekinded s') :
    s.displayCall = s'.displayCall := by
  unfold displayCall display
  rw [hs.scope, hs.member]

end Symbol

/-! ### Calls -/

/-- The calls are the same, but for the kinds of method of what they name. -/
inductive CallSite.Rekinded : CallSite → CallSite → Prop
  | mk (call : CallSite) {invoked declaring : Symbol} {alsoDeclaredIn : List Symbol}
    (hinvoked : call.invoked.Rekinded invoked) (hdeclaring : call.declaring.Rekinded declaring)
    (halso : List.Forall₂ Symbol.Rekinded call.alsoDeclaredIn alsoDeclaredIn) :
    CallSite.Rekinded call { call with invoked, declaring, alsoDeclaredIn }

namespace SiteEntry

/-- The entry with another kind. -/
def ofKind (e : SiteEntry) (kind : SymbolKind) : SiteEntry :=
  { e with kind }

/-- The owner of the member. -/
def owner (e : SiteEntry) (invoked : Symbol) : Except SymbolError Symbol :=
  match e.declaring with
  | none => .ok invoked
  | some name => Symbol.parse name e.kind

/-- What the call stands in. -/
def surroundings (e : SiteEntry) : Except SymbolError (Option Symbol) :=
  match e.caller with
  | none => .ok none
  | some name => (Symbol.parse name (callerKind name)).map some

/-- The names of an entry are read one after the other. -/
theorem site_eq (e : SiteEntry) :
    e.site = (do
      let invoked ← Symbol.parse e.invoked e.kind
      let declaring ← e.owner invoked
      let alsoDeclaredIn ← e.alsoDeclaredIn.mapM (Symbol.parse · e.kind)
      let caller ← e.surroundings
      .ok { invoked, declaring, alsoDeclaredIn, caller, file := e.file, line := e.line,
            arguments := e.arguments }) := by
  unfold site owner surroundings
  cases e.declaring <;> cases e.caller <;> rfl

theorem owner_rekinded (e : SiteEntry) (kind kind' : SymbolKind) {s s' : Symbol}
    (hs : s.Rekinded s') :
    SameOutcome Eq Symbol.Rekinded ((e.ofKind kind).owner s) ((e.ofKind kind').owner s') := by
  unfold owner ofKind
  cases e.declaring with
  | none => exact .ok hs
  | some name => exact Symbol.parse_rekinded name kind kind'

/-- Whatever the kind, an entry is refused for the same reason, or describes the same call but for
the kinds of method. -/
theorem site_rekinded (e : SiteEntry) (kind kind' : SymbolKind) :
    SameOutcome Eq CallSite.Rekinded (e.ofKind kind).site (e.ofKind kind').site := by
  rw [site_eq, site_eq]
  refine (Symbol.parse_rekinded e.invoked kind kind').bind fun invoked invoked' hinvoked => ?_
  refine (owner_rekinded e kind kind' hinvoked).bind fun declaring declaring' hdeclaring => ?_
  refine (SameOutcome.mapM fun name _ => Symbol.parse_rekinded name kind kind').bind
    fun also also' halso => ?_
  -- The caller has a kind of its own, which its name tells.
  show SameOutcome Eq CallSite.Rekinded (e.surroundings >>= _) (e.surroundings >>= _)
  cases e.surroundings with
  | error cause => exact .error rfl
  | ok caller => exact .ok (.mk _ hinvoked hdeclaring halso)

/-- What a call invokes is what the entry names. -/
theorem parse_invoked_of_site {e : SiteEntry} {call : CallSite} (h : e.site = .ok call) :
    Symbol.parse e.invoked e.kind = .ok call.invoked := by
  rw [site_eq] at h
  obtain ⟨invoked, hinvoked, h⟩ := exists_of_bind_eq_ok h
  obtain ⟨declaring, -, h⟩ := exists_of_bind_eq_ok h
  obtain ⟨also, -, h⟩ := exists_of_bind_eq_ok h
  obtain ⟨caller, -, h⟩ := exists_of_bind_eq_ok h
  cases h
  exact hinvoked

/-- A call is of a method exactly if `::` is in the name of what the code names. -/
theorem isMethod_iff_of_site {e : SiteEntry} {call : CallSite} (h : e.site = .ok call) :
    call.kind.isMethod = true ↔ [':', ':'] <:+: trim e.invoked.toList :=
  Symbol.isMethod_iff_of_parse (parse_invoked_of_site h)

end SiteEntry

/-! ### Patterns and rules -/

namespace RuleKind

/-- Rules of a kind apply to methods, or to everything else. -/
theorem appliesTo_iff (rule : RuleKind) (kind : SymbolKind) :
    rule.appliesTo kind = true ↔ (rule = .method ↔ kind.isMethod = true) := by
  cases rule <;> cases kind <;> decide

theorem appliesTo_congr (rule : RuleKind) {kind kind' : SymbolKind}
    (h : kind.isMethod = kind'.isMethod) : rule.appliesTo kind = rule.appliesTo kind' := by
  rw [Bool.eq_iff_iff, appliesTo_iff, appliesTo_iff, h]

end RuleKind

section

variable {s s' : Symbol} (hs : s.Rekinded s')

include hs

theorem SymbolPattern.covers_rekinded (p : SymbolPattern) : p.covers s = p.covers s' := by
  unfold covers
  cases p.symbols with
  | named key => rw [SymbolSet.contains, SymbolSet.contains, hs.key]
  | members scope stem => rw [SymbolSet.contains, SymbolSet.contains, hs.scope, hs.member]

theorem Rule.matchingPattern?_rekinded (r : Rule) :
    r.matchingPattern? s = r.matchingPattern? s' := by
  unfold matchingPattern? isExcluded
  simp only [SymbolPattern.covers_rekinded hs]

theorem RuleSet.matchesFor_rekinded (rules : RuleSet) {kind kind' : SymbolKind}
    (hkind : kind.isMethod = kind'.isMethod) :
    rules.matchesFor kind s = rules.matchesFor kind' s' := by
  unfold matchesFor
  simp only [fun rule : RuleKind => rule.appliesTo_congr hkind, Rule.matchingPattern?_rekinded hs]

end

section

variable {call call' : CallSite} (hcall : call.Rekinded call')

include hcall

theorem CallSite.Rekinded.invoked : call.invoked.Rekinded call'.invoked := by
  cases hcall with
  | mk hinvoked => exact hinvoked

theorem CallSite.Rekinded.candidates :
    List.Forall₂ Symbol.Rekinded call.candidates call'.candidates := by
  cases hcall with
  | mk hinvoked hdeclaring halso =>
    exact forall₂_distinctFrom (fun _ _ hs => hs.key) (.cons hdeclaring halso) []

/-- A rule judges a call by its file, its caller and its arguments. -/
theorem Rule.judgeAt_rekinded (r : Rule) (root : ProjectRoot) :
    r.judgeAt root call = r.judgeAt root call' := by
  cases hcall
  rfl

end

/-! ### Diagnostics -/

/-- The findings of one rule, under symbols that differ in the kind of method only. -/
structure Finding.Rekinded (f f' : Finding) : Prop where
  call : f.call.Rekinded f'.call
  candidate : f.candidate.Rekinded f'.candidate
  found : f.found = f'.found

/-- The identifiers of methods. -/
def methodIdentifiers : List String := ["disallowed.method", "disallowed.staticCall"]

/-- The findings are of one rule and have one diagnostic, but for the identifier where the rule
gives none and both calls are of methods. -/
structure Finding.Agrees (f f' : Finding) : Prop where
  found : f.found = f'.found
  diagnostic : f'.diagnostic = { f.diagnostic with identifier := f'.diagnostic.identifier }
  identifier : f.diagnostic.identifier = f'.diagnostic.identifier ∨
    f.found.rule.errorIdentifier = none ∧ f.diagnostic.identifier ∈ methodIdentifiers ∧
      f'.diagnostic.identifier ∈ methodIdentifiers

theorem SymbolKind.identifier_eq_or_mem {kind kind' : SymbolKind}
    (h : kind.isMethod = kind'.isMethod) :
    kind.identifier = kind'.identifier ∨
      kind.identifier ∈ methodIdentifiers ∧ kind'.identifier ∈ methodIdentifiers := by
  cases hmethod : kind.isMethod with
  | false =>
    rw [hmethod] at h
    have hfunction : ∀ k : SymbolKind, k.isMethod = false → k = .function := by
      intro k hk
      cases k <;> first | rfl | cases hk
    rw [hfunction kind hmethod, hfunction kind' h.symm]
    exact Or.inl rfl
  | true =>
    rw [hmethod] at h
    have hmem : ∀ k : SymbolKind, k.isMethod = true → k.identifier ∈ methodIdentifiers := by
      intro k hk
      cases k with
      | function => cases hk
      | staticMethod => decide
      | instanceMethod => decide
    exact Or.inr ⟨hmem kind hmethod, hmem kind' h.symm⟩

theorem Finding.Rekinded.agrees {f f' : Finding} (hf : f.Rekinded f') : f.Agrees f' := by
  obtain ⟨call, candidate, found⟩ := f
  obtain ⟨call', candidate', found'⟩ := f'
  obtain ⟨hcall, hcandidate, hfound⟩ := hf
  dsimp only at hcall hcandidate hfound
  subst hfound
  have hmessage : (Finding.mk call candidate found).message =
      (Finding.mk call' candidate' found).message := by
    unfold message aliasNote? Symbol.same
    simp only [hcandidate.displayCall_eq, hcandidate.key, hcall.invoked.displayCall_eq,
      hcall.invoked.key]
  have hlocation : call.file = call'.file ∧ call.line = call'.line := by
    cases hcall
    exact ⟨rfl, rfl⟩
  refine ⟨rfl, ?_, ?_⟩
  · unfold diagnostic
    simp only [hmessage, hlocation.1, hlocation.2]
  · show found.rule.errorIdentifier.getD call.kind.identifier =
        found.rule.errorIdentifier.getD call'.kind.identifier ∨ _
    cases hidentifier : found.rule.errorIdentifier with
    | some identifier => exact Or.inl rfl
    | none =>
      refine (SymbolKind.identifier_eq_or_mem hcall.invoked.isMethod).imp_right fun h => ⟨rfl, ?_⟩
      unfold diagnostic
      rw [hidentifier]
      exact h

namespace Engine

theorem findingsUnder_rekinded (e : Engine) {call call' : CallSite} (hcall : call.Rekinded call')
    {s s' : Symbol} (hs : s.Rekinded s') :
    List.Forall₂ Finding.Rekinded (e.findingsUnder call s) (e.findingsUnder call' s') := by
  have hmatches : e.rules.matchesFor call.kind s = e.rules.matchesFor call'.kind s' :=
    e.rules.matchesFor_rekinded hs hcall.invoked.isMethod
  unfold findingsUnder
  rw [hmatches, List.forall₂_map_left_iff, List.forall₂_map_right_iff, List.forall₂_same]
  intro found _
  exact ⟨hcall, hs, rfl⟩

theorem reports_rekinded (e : Engine) {call call' : CallSite} (hcall : call.Rekinded call') :
    List.Forall₂ (fun p p' : Nat × Finding => p.1 = p'.1 ∧ p.2.Rekinded p'.2) (e.reports call)
      (e.reports call') := by
  refine forall₂_reports hcall.candidates (fun s s' hs => e.findingsUnder_rekinded hcall hs)
    (fun f f' hf => by rw [hf.found]) fun f f' hf => ?_
  unfold forbids
  rw [hf.found, Rule.judgeAt_rekinded hf.call]

end Engine

namespace SiteEntry

/-- **The kind of a call.** Whatever the kind of an entry, it is refused for the same reason, or
describes a call. Whether rules for functions or for methods apply to the call is told by `::` in
the name of what the code names, and by nothing else. Every engine finds the same rules broken,
under candidates in the same places, and its diagnostics differ at most in the identifier: where the
rule gives none, between the two identifiers of methods. -/
theorem evaluate_rekinded (e : SiteEntry) (kind kind' : SymbolKind) :
    SameOutcome Eq
      (fun call call' : CallSite =>
        (∀ rule : RuleKind, (rule.appliesTo call.kind = true ↔
            (rule = .method ↔ [':', ':'] <:+: trim e.invoked.toList)) ∧
          rule.appliesTo call'.kind = rule.appliesTo call.kind) ∧
        ∀ engine : Engine,
          engine.Yields call (engine.reports call) ∧ engine.Yields call' (engine.reports call') ∧
            List.Forall₂ (fun p p' : Nat × Finding => p.1 = p'.1 ∧ p.2.Agrees p'.2)
              (engine.reports call) (engine.reports call'))
      (e.ofKind kind).site (e.ofKind kind').site := by
  refine (e.site_rekinded kind kind').imp fun call call' hsite _ hcall => ?_
  refine ⟨fun rule => ⟨?_, ?_⟩, fun engine => ⟨?_, ?_, ?_⟩⟩
  · rw [RuleKind.appliesTo_iff, isMethod_iff_of_site hsite]
    exact Iff.rfl
  · exact rule.appliesTo_congr hcall.invoked.isMethod.symm
  · exact engine.yields_reports call
  · exact engine.yields_reports call'
  · exact (engine.reports_rekinded hcall).imp fun _ _ hp => ⟨hp.1, hp.2.agrees⟩

/-- An entry that names `Foo::bar`, as a function. -/
def namingFooBar : SiteEntry where
  kind := .function
  invoked := "Foo::bar"
  declaring := none
  alsoDeclaredIn := []
  caller := none
  file := "a.php"
  line := 1
  arguments := []

/-- An engine with one rule, about `Foo::bar`, that gives no identifier. -/
def withoutFooBar : Engine where
  root := .locate "/" "/"
  rules := ⟨[{ Rule.blank .method with calls := [⟨"Foo::bar", .named "foo::bar"⟩] }]⟩
  settings := .initial

/-- A method that an entry calls a function is reported as a static one. As an instance method it
has the other identifier, and nothing else changes. -/
theorem evaluate_rekinded_fooBar :
    ∃ call call', (namingFooBar.ofKind .function).site = .ok call ∧
      (namingFooBar.ofKind .instanceMethod).site = .ok call' ∧
      (withoutFooBar.evaluate call).map (·.identifier) = ["disallowed.staticCall"] ∧
      (withoutFooBar.evaluate call').map (·.identifier) = ["disallowed.method"] ∧
      List.Forall₂ (fun p p' : Nat × Finding => p.1 = p'.1 ∧ p.2.Agrees p'.2)
        (withoutFooBar.reports call) (withoutFooBar.reports call') := by
  have hstatic : ((namingFooBar.ofKind .function).site.map fun call =>
      (withoutFooBar.evaluate call).map (·.identifier)) = .ok ["disallowed.staticCall"] := by
    decide +kernel
  have hmethod : ((namingFooBar.ofKind .instanceMethod).site.map fun call =>
      (withoutFooBar.evaluate call).map (·.identifier)) = .ok ["disallowed.method"] := by
    decide +kernel
  obtain ⟨call, hsite, hidentifiers⟩ := exists_of_map_eq_ok hstatic
  obtain ⟨call', hsite', hidentifiers'⟩ := exists_of_map_eq_ok hmethod
  have hsame := evaluate_rekinded namingFooBar .function .instanceMethod
  rw [hsite, hsite'] at hsame
  cases hsame with
  | ok hcalls =>
    exact ⟨call, call', hsite, hsite', hidentifiers.symm, hidentifiers'.symm,
      (hcalls.2 withoutFooBar).2.2⟩

end SiteEntry

end CallPolicy
