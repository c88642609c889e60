import CallPolicy.Proofs.BareNames
import CallPolicy.Proofs.Text.Settled
import CallPolicy.Proofs.WildcardPatterns

namespace CallPolicy

open Text

/-!
# Canonical names

The key of a name is a name itself, and so is what messages show of a symbol. Both are undecorated
already; undecorating them once more does nothing only if the undecorated name is bare.

* `comparisonKey_comparisonKey_eq_iff` — when a key is its own key.
* `Symbol.key_eq_iff` — when the key of a symbol is that of the name it was given.
* `Symbol.parse_displayCall_eq_iff` — when a symbol is read back from what messages show of it.
* `Symbol.canonical_names` — all of this; `Symbol.not_canonical_names` — there are exceptions.
-/

/-! ### Keys of keys -/

/-- Undecorating twice gives another key, unless the second time does nothing. -/
theorem comparisonKey_undecorate_eq_iff (cs : List Char) :
    comparisonKey (undecorate cs) = comparisonKey cs ↔ IsBare (undecorate cs) := by
  rw [← undecorate_eq_self_iff]
  constructor
  · -- What is cut off is missed in lower case too.
    exact eq_of_lower_eq_of_infix (undecorate_isInfix _)
  · intro h
    exact congrArg lower h

theorem comparisonKey_comparisonKey (cs : List Char) :
    comparisonKey (comparisonKey cs) = comparisonKey (undecorate cs) := by
  unfold comparisonKey
  rw [undecorate_lower, lower_lower]

theorem comparisonKey_comparisonKey_eq_iff (cs : List Char) :
    comparisonKey (comparisonKey cs) = comparisonKey cs ↔ IsBare (undecorate cs) := by
  rw [comparisonKey_comparisonKey, comparisonKey_undecorate_eq_iff]

namespace Symbol

/-! ### What messages show -/

theorem toList_display (s : Symbol) : s.display.toList = s.scope.lead ++ s.member.toList := by
  unfold display
  cases s.scope <;> simp [Scope.qualify, Scope.lead]

theorem toList_displayCall (s : Symbol) :
    s.displayCall.toList = s.display.toList ++ ['(', ')'] := by
  simp [displayCall]

/-- A kind that is right for its scope stays as it is. -/
theorem kindIn_kindIn (scope : Scope) (kind : SymbolKind) :
    kindIn scope (kindIn scope kind) = kindIn scope kind := by
  unfold kindIn
  cases scope.isClass with
  | false => rfl
  | true => cases kind <;> rfl

section

variable {name : String} {kind : SymbolKind} {s : Symbol} (h : parse name kind = .ok s)

include h

/-- A symbol is shown as it was spelled, without decoration. -/
theorem toList_display_of_parse : s.display.toList = undecorate name.toList := by
  rw [toList_display, ← lead_append_splitName (undecorate name.toList), (parse_eq_ok h).1]

theorem lower_display_of_parse : lower s.display.toList = comparisonKey name.toList := by
  rw [toList_display_of_parse h, comparisonKey]

theorem comparisonKey_ne_nil_of_parse : comparisonKey name.toList ≠ [] := by
  obtain ⟨hsplit, hmember, -⟩ := parse_eq_ok h
  have hbare := isEmpty_of_splitName hsplit hmember
  rw [comparisonKey, ← List.length_pos_iff, lower, length_lowerAfter]
  have hlength := List.length_pos_iff.2 (List.isEmpty_eq_false_iff.1 hbare)
  omega

theorem key_eq_iff :
    s.key.toList = comparisonKey name.toList ↔ IsBare (undecorate name.toList) := by
  rw [(parse_eq_ok h).2.2, String.toList_ofList, comparisonKey_undecorate_eq_iff]

/-- The brackets protect the end of the shown name, but nothing protects blanks at its start. -/
theorem parse_displayCall_eq_iff :
    parse s.displayCall s.kind = .ok s ↔ (undecorate name.toList).head?.any isBlank = false := by
  obtain ⟨hsplit, hmember, hkey⟩ := parse_eq_ok h
  rw [← undecorate_called_eq_iff, ← toList_display_of_parse h, ← toList_displayCall]
  constructor
  · -- The scope and the member that are read make up the name that is read.
    intro hagain
    obtain ⟨hsplit', -, -⟩ := parse_eq_ok hagain
    rw [toList_display, ← lead_append_splitName (undecorate s.displayCall.toList), hsplit']
  · intro hbare
    have hsplit' : splitName (undecorate s.displayCall.toList) = (s.scope, s.member.toList) := by
      rw [hbare, toList_display_of_parse h, hsplit]
    rw [parse_of_split hsplit' hmember, hbare, toList_display_of_parse h, ← hkey, kind_of_parse h,
      kindIn_kindIn, ← kind_of_parse h, String.ofList_toList]

end

/-- **Canonical names.** The key of a text is its own key exactly if the undecorated text is bare.
What messages show of a symbol has the key of its name, which is not empty; the symbol itself has
this key exactly if the undecorated name is bare. The symbol is read back from what is shown exactly
if the undecorated name starts with no blank. -/
theorem canonical_names (name : String) :
    (comparisonKey (comparisonKey name.toList) = comparisonKey name.toList ↔
      IsBare (undecorate name.toList)) ∧
    ∀ (kind : SymbolKind) (s : Symbol), parse name kind = .ok s →
      comparisonKey name.toList ≠ [] ∧
      lower s.display.toList = comparisonKey name.toList ∧
      (s.key.toList = comparisonKey name.toList ↔ IsBare (undecorate name.toList)) ∧
      (parse s.displayCall s.kind = .ok s ↔
        (undecorate name.toList).head?.any isBlank = false) := by
  constructor
  · exact comparisonKey_comparisonKey_eq_iff name.toList
  · intro kind s h
    exact ⟨comparisonKey_ne_nil_of_parse h, lower_display_of_parse h, key_eq_iff h,
      parse_displayCall_eq_iff h⟩

/-- What the name `\Foo\ΟΔΟΣ::Bar()` spells. -/
def odosBar : Symbol where
  kind := .staticMethod
  scope := .inClass "Foo\\ΟΔΟΣ"
  member := "Bar"
  key := "foo\\οδοσ::bar"

/-- With blanks around it, the name is bare once it is undecorated: all its spellings agree. -/
theorem canonical_names_odosBar :
    parse "  \\Foo\\ΟΔΟΣ::Bar() " .function = .ok odosBar ∧
    comparisonKey (comparisonKey "  \\Foo\\ΟΔΟΣ::Bar() ".toList) =
      comparisonKey "  \\Foo\\ΟΔΟΣ::Bar() ".toList ∧
    comparisonKey "  \\Foo\\ΟΔΟΣ::Bar() ".toList ≠ [] ∧
    lower odosBar.display.toList = comparisonKey "  \\Foo\\ΟΔΟΣ::Bar() ".toList ∧
    odosBar.key.toList = comparisonKey "  \\Foo\\ΟΔΟΣ::Bar() ".toList ∧
    parse odosBar.displayCall odosBar.kind = .ok odosBar := by
  have hbare : IsBare (undecorate "  \\Foo\\ΟΔΟΣ::Bar() ".toList) :=
    ⟨by decide +kernel, by decide +kernel, by decide +kernel⟩
  have hparse : parse "  \\Foo\\ΟΔΟΣ::Bar() " .function = .ok odosBar := by decide +kernel
  obtain ⟨hkeys, hsymbols⟩ := canonical_names "  \\Foo\\ΟΔΟΣ::Bar() "
  obtain ⟨hne, hdisplay, hkey, hread⟩ := hsymbols _ _ hparse
  exact ⟨hparse, hkeys.2 hbare, hne, hdisplay, hkey.2 hbare, hread.2 (by decide +kernel)⟩

/-- What `\ Foo::bar` spells: the blank behind the `\` stays in the class, and not in the key. -/
def spacedBar : Symbol where
  kind := .staticMethod
  scope := .inClass " Foo"
  member := "bar"
  key := "foo::bar"

/-- What `()()` spells. -/
def brackets : Symbol where
  kind := .function
  scope := .global
  member := "()"
  key := ""

/-- Names that are decorated twice have no canonical key: keys may have other keys, symbols may have
another key than their names or an empty one, and may not be read back. -/
theorem not_canonical_names :
    (¬ ∀ cs : List Char, comparisonKey (comparisonKey cs) = comparisonKey cs) ∧
    (¬ ∀ (name : String) (kind : SymbolKind) (s : Symbol), parse name kind = .ok s →
      s.key.toList = comparisonKey name.toList) ∧
    (¬ ∀ (name : String) (kind : SymbolKind) (s : Symbol), parse name kind = .ok s →
      s.key ≠ "") ∧
    ¬ ∀ (name : String) (kind : SymbolKind) (s : Symbol), parse name kind = .ok s →
      parse s.displayCall s.kind = .ok s := by
  have hspaced : parse "\\ Foo::bar" .staticMethod = .ok spacedBar := by decide +kernel
  have hbrackets : parse "()()" .function = .ok brackets := by decide +kernel
  refine ⟨fun h => ?_, fun h => ?_, fun h => ?_, fun h => ?_⟩
  · exact absurd (h "\\ Foo::bar".toList) (by decide +kernel)
  · exact absurd (h _ _ _ hspaced) (by decide +kernel)
  · exact h _ _ _ hbrackets rfl
  · exact absurd (h _ _ _ hspaced) (by decide +kernel)

end Symbol

end CallPolicy
