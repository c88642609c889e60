import CallPolicy.Proofs.Text.Continued
import CallPolicy.Proofs.WildcardPatterns

namespace CallPolicy

open Text

/-!
# Prefix patterns

A pattern with a stem and a final `*` is for the members whose names start with the stem. Both are
compared in lower case, where a capital sigma at the end of the stem is final, and may not be so
in the member.

* `SymbolPattern.HasStem`, `Symbol.Continues` — a pattern with its stem, and a symbol spelled as the
  stem and some more.
* `SymbolPattern.covers_iff_of_hasStem` — what such a pattern tests.
* `SymbolPattern.covers_continuation` — when it covers all that its stem is continued with, and when
  a shorter stem covers more.
* `SymbolPattern.not_covers_continuation` — it does not always.
-/

namespace SymbolPattern

/-- The accepted pattern is spelled as a stem in a scope, with a final `*`. -/
def HasStem (p : SymbolPattern) (scope : Scope) (stem : List Char) : Prop :=
  p.IsAccepted ∧ splitName p.text.toList = (scope, stem ++ ['*'])

end SymbolPattern

/-- The parsed symbol is of the scope's kind, with the scope's qualifier as it is spelled there, and
its member is spelled as the stem and some more. -/
structure Symbol.Continues (s : Symbol) (scope : Scope) (stem rest : List Char) : Prop where
  parsed : s.IsParsed
  isMethod : s.kind.isMethod = scope.isClass
  qualifier : s.qualifier? = scope.qualifier?
  member : s.member.toList = stem ++ rest

theorem Symbol.Continues.scope_eq {s : Symbol} {scope : Scope} {stem rest : List Char}
    (h : s.Continues scope stem rest) : s.scope = scope := by
  obtain ⟨name, kind, hparse⟩ := h.parsed
  exact Scope.eq_of_qualifier? ((isMethod_of_parse hparse).symm.trans h.isMethod) h.qualifier

namespace SymbolPattern

section

variable {p : SymbolPattern} {scope : Scope} {stem : List Char} (h : p.HasStem scope stem)

include h

theorem symbols_of_hasStem : p.symbols = .members scope.lower (String.ofList (lower stem)) := by
  obtain ⟨⟨text, htext⟩, hsplit⟩ := h
  obtain ⟨scope', member, hp⟩ := compile_eq_ok htext
  obtain ⟨rfl, rfl⟩ := Prod.mk.inj (hp.split_eq.symm.trans hsplit)
  rcases symbolsOf_eq_ok hp.symbols_eq with ⟨hstar, -⟩ | ⟨stem', hmember, -, hmembers⟩
  · exact absurd (List.mem_append_right stem List.mem_cons_self) hstar
  · rw [hmembers, List.append_cancel_right hmember]

theorem covers_iff_of_hasStem (s : Symbol) :
    p.covers s = true ↔ s.scope.lower = scope.lower ∧ lower stem <+: lower s.member.toList := by
  rw [covers, symbols_of_hasStem h, SymbolSet.contains, Bool.and_eq_true, beq_iff_eq,
    String.toList_ofList, List.isPrefixOf_iff_prefix]

/-- A pattern with a stem may also be read as a name, with the `*` in its member. -/
theorem exists_symbol_of_hasStem :
    ∃ s : Symbol, s.IsParsed ∧ s.scope = scope ∧ s.member.toList = stem ++ ['*'] := by
  obtain ⟨⟨text, htext⟩, hsplit⟩ := h
  obtain ⟨_, _, hp⟩ := compile_eq_ok htext
  rw [hp.text_eq] at hsplit
  have hmember : stem ++ ['*'] ≠ [] := by simp
  exact ⟨_, ⟨text, .function, Symbol.parse_of_split hsplit hmember .function⟩, rfl,
    String.toList_ofList⟩

theorem covers_iff_of_continues {s : Symbol} {rest : List Char} (hs : s.Continues scope stem rest) :
    p.covers s = true ↔ ¬ (endsInSigma stem = true ∧ startsCased rest = true) := by
  rw [covers_iff_of_hasStem h, hs.scope_eq, hs.member, lower_prefix_append_iff]
  exact and_iff_right rfl

end

/-- A shorter stem covers all that the longer one covers exactly if it covers the symbol that is
spelled as the pattern itself. -/
theorem covers_of_shorter_iff {p p' : SymbolPattern} {scope : Scope} {stem tail : List Char}
    (h : p.HasStem scope (stem ++ tail)) (h' : p'.HasStem scope stem) :
    (∀ s : Symbol, s.IsParsed → p.covers s = true → p'.covers s = true) ↔
      ¬ (endsInSigma stem = true ∧ startsCased tail = true) := by
  constructor
  · intro hcovers
    obtain ⟨s, hs, hscope, hmember⟩ := exists_symbol_of_hasStem h
    have hlong : p.covers s = true := by
      rw [covers_iff_of_hasStem h, hscope, hmember, lower_prefix_append_iff]
      exact ⟨rfl, fun hword => Bool.noConfusion hword.2⟩
    have hshort := ((covers_iff_of_hasStem h' s).1 (hcovers s hs hlong)).2
    rw [hmember, List.append_assoc, lower_prefix_append_iff,
      startsCased_append_break (isBreak_of_isSpecial '*' rfl) tail []] at hshort
    exact hshort
  · intro hword s _ hlong
    obtain ⟨hscope, hmember⟩ := (covers_iff_of_hasStem h s).1 hlong
    exact (covers_iff_of_hasStem h' s).2
      ⟨hscope, ((lower_prefix_append_iff stem tail).2 hword).trans hmember⟩

/-- **Stems and their continuations.** A pattern covers a symbol of its scope that is spelled as its
stem and some more, unless the stem ends a word in a capital sigma and the word goes on. A shorter
stem covers all that the longer one covers, unless the same is true of what was left out. -/
theorem covers_continuation {p : SymbolPattern} {scope : Scope} {stem : List Char}
    (h : p.HasStem scope stem) :
    (∀ (s : Symbol) (rest : List Char), s.Continues scope stem rest →
      (p.covers s = true ↔ ¬ (endsInSigma stem = true ∧ startsCased rest = true))) ∧
    ∀ (p' : SymbolPattern) (shorter tail : List Char), p'.HasStem scope shorter →
      stem = shorter ++ tail →
      ((∀ s : Symbol, s.IsParsed → p.covers s = true → p'.covers s = true) ↔
        ¬ (endsInSigma shorter = true ∧ startsCased tail = true)) := by
  constructor
  · intro s rest hs
    exact covers_iff_of_continues h hs
  · rintro p' shorter tail h' rfl
    exact covers_of_shorter_iff h h'

/-- A pattern for the members of `Foo` that start with `stem` in lower case. -/
def stemOfFoo (text stem : String) : SymbolPattern where
  text
  symbols := .members (.inClass "foo") stem

/-- A static method of `Foo`. -/
def methodOfFoo (member key : String) : Symbol where
  kind := .staticMethod
  scope := .inClass "Foo"
  member
  key

/-- `Foo::ΟΔΟΣ*` covers `Foo::ΟΔΟΣ_Α`, where the word ends at the `_`, and `Foo::ΟΔ*` covers all
that it covers. -/
theorem covers_continuation_underscore :
    (stemOfFoo "Foo::ΟΔΟΣ*" "οδος").covers (methodOfFoo "ΟΔΟΣ_Α" "foo::οδος_α") = true ∧
      ∀ s : Symbol, s.IsParsed → (stemOfFoo "Foo::ΟΔΟΣ*" "οδος").covers s = true →
        (stemOfFoo "Foo::ΟΔ*" "οδ").covers s = true := by
  have hlong : (stemOfFoo "Foo::ΟΔΟΣ*" "οδος").HasStem (.inClass "Foo") "ΟΔΟΣ".toList :=
    ⟨⟨"Foo::ΟΔΟΣ*", by decide +kernel⟩, by decide +kernel⟩
  have hshort : (stemOfFoo "Foo::ΟΔ*" "οδ").HasStem (.inClass "Foo") "ΟΔ".toList :=
    ⟨⟨"Foo::ΟΔ*", by decide +kernel⟩, by decide +kernel⟩
  have hs : (methodOfFoo "ΟΔΟΣ_Α" "foo::οδος_α").Continues (.inClass "Foo") "ΟΔΟΣ".toList
      "_Α".toList :=
    ⟨⟨"Foo::ΟΔΟΣ_Α", .staticMethod, by decide +kernel⟩, rfl, rfl, rfl⟩
  obtain ⟨hcovers, hshorter⟩ := covers_continuation hlong
  refine ⟨(hcovers _ _ hs).2 (by decide +kernel), ?_⟩
  exact (hshorter _ _ "ΟΣ".toList hshort rfl).2 (by decide +kernel)

/-- It is not true that a pattern covers all continuations of its stem, nor that a shorter stem
covers all that a longer one covers. -/
theorem not_covers_continuation :
    (¬ ∀ (p : SymbolPattern) (scope : Scope) (stem rest : List Char) (s : Symbol),
      p.HasStem scope stem → s.Continues scope stem rest → p.covers s = true) ∧
    ¬ ∀ (p p' : SymbolPattern) (scope : Scope) (stem tail : List Char),
      p.HasStem scope (stem ++ tail) → p'.HasStem scope stem →
        ∀ s : Symbol, s.IsParsed → p.covers s = true → p'.covers s = true := by
  have hshort : (stemOfFoo "Foo::ΟΔΟΣ*" "οδος").HasStem (.inClass "Foo") "ΟΔΟΣ".toList :=
    ⟨⟨"Foo::ΟΔΟΣ*", by decide +kernel⟩, by decide +kernel⟩
  have hlong : (stemOfFoo "Foo::ΟΔΟΣΑ*" "οδοσα").HasStem (.inClass "Foo")
      ("ΟΔΟΣ".toList ++ "Α".toList) :=
    ⟨⟨"Foo::ΟΔΟΣΑ*", by decide +kernel⟩, by decide +kernel⟩
  have hs : (methodOfFoo "ΟΔΟΣΑ" "foo::οδοσα").IsParsed :=
    ⟨"Foo::ΟΔΟΣΑ", .staticMethod, by decide +kernel⟩
  have hnot :
      (stemOfFoo "Foo::ΟΔΟΣ*" "οδος").covers (methodOfFoo "ΟΔΟΣΑ" "foo::οδοσα") = false := by
    decide +kernel
  constructor
  · intro h
    have hcovers := h _ _ _ "Α".toList _ hshort ⟨hs, rfl, rfl, rfl⟩
    rw [hnot] at hcovers
    cases hcovers
  · intro h
    have hcovers := h _ _ _ _ _ hlong hshort _ hs (by decide +kernel)
    rw [hnot] at hcovers
    cases hcovers

end SymbolPattern

end CallPolicy
