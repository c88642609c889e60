import CallPolicy.Proofs.Matching
import CallPolicy.Proofs.Outcome
import CallPolicy.Proofs.WildcardPatterns

namespace CallPolicy

open Text

/-!
# Names as patterns

A text without special characters may be read as a pattern or as a name.

* `SymbolPattern.compile_of_plain` — as a pattern it is tested and kept as a name is.
* `SymbolPattern.compile_sameOutcome_parse` — both readings fail for one reason, or the pattern is
  for the symbol.
* `SymbolPattern.compile_agrees_parse` — the same, case by case, and what rules with such a pattern
  are about.
-/

namespace SymbolPattern

theorem compile_of_plain {text : String} (hplain : (undecorate text.toList).any isSpecial = false) :
    compile text =
      if (undecorate text.toList).isEmpty then .error .empty
      else if (splitName (undecorate text.toList)).2.isEmpty then .error (.emptyMember text)
      else .ok {
        text := String.ofList (undecorate text.toList)
        symbols := .named (String.ofList (comparisonKey (undecorate text.toList))) } := by
  by_cases hmember : (splitName (undecorate text.toList)).2 = []
  · -- The text is all scope, which the first two tests for wildcards let pass.
    have hlead := hplain
    rw [← lead_append_splitName (undecorate text.toList), hmember, List.append_nil,
      any_isSpecial_eq_false_iff, ← Scope.any_contains_star] at hlead
    have hforeign := ((any_isSpecial_eq_false_iff _).1 hplain).2
    unfold compile
    simp only [hforeign, hlead.1, hmember, Bool.false_eq_true, if_false, List.isEmpty_nil, if_true]
  · have hsplit : splitName (undecorate text.toList) =
        ((splitName (undecorate text.toList)).1, (splitName (undecorate text.toList)).2) :=
      Prod.mk.eta.symm
    have hempty := isEmpty_of_splitName hsplit hmember
    rw [compile_of_name hsplit hmember hplain, if_neg (by simp [hempty]),
      if_neg (by simpa using hmember)]

/-- A text is refused as a pattern and as a name for one reason. -/
inductive SameRefusal (text : String) : PatternError → SymbolError → Prop
  | empty : SameRefusal text .empty .empty
  | emptyMember : SameRefusal text (.emptyMember text) (.emptyMember text)

/-- The pattern covers all that is the same as the symbol, and nothing else. -/
def IsFor (p : SymbolPattern) (s : Symbol) : Prop :=
  ∀ t : Symbol, p.covers t = true ↔ t.same s = true

theorem compile_sameOutcome_parse {text : String} (hplain : text.toList.any isSpecial = false)
    (kind : SymbolKind) :
    SameOutcome (SameRefusal text) IsFor (compile text) (Symbol.parse text kind) := by
  have hbare : (undecorate text.toList).any isSpecial = false := by
    rw [List.any_eq_false] at hplain ⊢
    exact fun c hc => hplain c ((undecorate_isInfix _).subset hc)
  rw [compile_of_plain hbare]
  unfold Symbol.parse
  dsimp only
  -- The same two tests are made in the same order.
  refine .stop_if .empty (.stop_if .emptyMember (.ok fun t => ?_))
  rw [covers_iff_of_named rfl, Symbol.same, beq_iff_eq]

/-- A rule with one pattern for a symbol, and no exclusions, is about the symbols that are the
same. -/
theorem IsFor.isAbout_iff {p : SymbolPattern} {s : Symbol} (h : p.IsFor s) {r : Rule}
    (hcalls : r.calls = [p]) (hexcludes : r.excludes = []) (t : Symbol) :
    r.IsAbout t ↔ t.same s = true := by
  rw [← h t, Rule.IsAbout, hcalls, hexcludes]
  simp

/-- **Names as patterns.** A text without special characters is accepted as a pattern exactly if it
is accepted as a name, and is refused for the same reason. As a pattern it covers all symbols that
are the same as the one it names, and no others; so a rule that names a symbol is about these. -/
theorem compile_agrees_parse {text : String} (hplain : text.toList.any isSpecial = false)
    (kind : SymbolKind) :
    ((∃ p, compile text = .ok p) ↔ ∃ s, Symbol.parse text kind = .ok s) ∧
    (compile text = .error .empty ↔ Symbol.parse text kind = .error .empty) ∧
    (∀ given, compile text = .error (.emptyMember given) ↔
      Symbol.parse text kind = .error (.emptyMember given)) ∧
    ∀ p s, compile text = .ok p → Symbol.parse text kind = .ok s →
      (∀ t : Symbol, p.covers t = true ↔ t.same s = true) ∧
      ∀ r : Rule, r.calls = [p] → r.excludes = [] →
        ∀ t : Symbol, r.IsAbout t ↔ t.same s = true := by
  rcases (compile_sameOutcome_parse hplain kind).ok_or_error with
    ⟨p, s, hp, hs, hfor⟩ | ⟨e, e', he, he', hsame⟩
  · rw [hp, hs]
    refine ⟨⟨fun _ => ⟨s, rfl⟩, fun _ => ⟨p, rfl⟩⟩, ⟨nofun, nofun⟩, fun _ => ⟨nofun, nofun⟩, ?_⟩
    rintro _ _ ⟨⟩ ⟨⟩
    exact ⟨hfor, fun r => hfor.isAbout_iff⟩
  · rw [he, he']
    refine ⟨⟨nofun, nofun⟩, ?_, fun given => ?_, nofun⟩
    · cases hsame with
      | empty => exact ⟨fun _ => rfl, fun _ => rfl⟩
      | emptyMember => exact ⟨nofun, nofun⟩
    · cases hsame with
      | empty => exact ⟨nofun, nofun⟩
      | emptyMember => simp only [Except.error.injEq, PatternError.emptyMember.injEq,
          SymbolError.emptyMember.injEq]

/-- The pattern `Foo::Bar`. -/
def barPattern : SymbolPattern where
  text := "Foo::Bar"
  symbols := .named "foo::bar"

/-- The instance method `Foo::Bar`. -/
def barMethod : Symbol where
  kind := .instanceMethod
  scope := .inClass "Foo"
  member := "Bar"
  key := "foo::bar"

/-- ` \Foo::Bar()` is a pattern for the symbol it names. -/
theorem compile_agrees_parse_fooBar :
    " \\Foo::Bar()".toList.any isSpecial = false ∧
    (∃ s, Symbol.parse " \\Foo::Bar()" .instanceMethod = .ok s) ∧
    (∀ t : Symbol, barPattern.covers t = true ↔ t.same barMethod = true) ∧
    ∀ t : Symbol, (Rule.extend (Rule.blank .method) (.call barPattern)).IsAbout t ↔
      t.same barMethod = true := by
  have hplain : " \\Foo::Bar()".toList.any isSpecial = false := by decide +kernel
  have hcompile : compile " \\Foo::Bar()" = .ok barPattern := by decide +kernel
  have hparse : Symbol.parse " \\Foo::Bar()" .instanceMethod = .ok barMethod := by decide +kernel
  obtain ⟨haccepted, -, -, hfor⟩ := compile_agrees_parse hplain .instanceMethod
  obtain ⟨hcovers, habout⟩ := hfor _ _ hcompile hparse
  exact ⟨hplain, haccepted.1 ⟨_, hcompile⟩, hcovers, habout _ rfl rfl⟩

end SymbolPattern

end CallPolicy
