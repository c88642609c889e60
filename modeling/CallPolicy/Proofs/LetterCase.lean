import CallPolicy.Proofs.Outcome
import CallPolicy.Proofs.Text.Recase
import CallPolicy.Symbol.Pattern

namespace CallPolicy

open Text

/-!
# Names and patterns in another case

* `splitName_asciiLower` — names are taken apart in the same places, whatever the case of their
  ASCII letters.
* `Symbol.Alike`, `SymbolPattern.Alike` — symbols and patterns that differ in the way they are
  spelled only; `SymbolPattern.covers_alike`.
* `SymbolPattern.compile_recased`, `Symbol.parse_recased` — texts that differ in the case of ASCII
  letters are refused alike, or are alike.
-/

/-! ### Names taken apart -/

theorem undecorate_asciiLower (cs : List Char) :
    undecorate (asciiLower cs) = asciiLower (undecorate cs) := by
  have hslash : ∀ c : Char, (c.toLower == '\\') = (c == '\\') := beq_toLower rfl
  have hparens : ∀ m ∈ ['(', ')'], m.isAlpha = false := by
    simp only [List.forall_mem_cons]
    exact ⟨rfl, rfl, nofun⟩
  -- What decorates a name holds no letters.
  unfold undecorate
  rw [trim_asciiLower, dropWhile_asciiLower hslash]
  dsimp only
  rw [stripEnd?_asciiLower hparens]
  unfold trimEnd
  cases stripEnd? ['(', ')'] ((trim cs).dropWhile (· == '\\')) with
  | none => exact dropTrailing_asciiLower isBlank_toLower _
  | some bare => exact dropTrailing_asciiLower isBlank_toLower bare

/-- The scope with the ASCII letters of its name in lower case. -/
def Scope.asciiLower : Scope → Scope
  | .global => .global
  | .inNamespace name => .inNamespace (String.ofList (Text.asciiLower name.toList))
  | .inClass name => .inClass (String.ofList (Text.asciiLower name.toList))

/-- Names are taken apart in the same places. -/
theorem splitName_asciiLower (cs : List Char) :
    splitName (asciiLower cs) = ((splitName cs).1.asciiLower, asciiLower (splitName cs).2) := by
  have hcolons : ∀ m ∈ [':', ':'], m.isAlpha = false := by
    simp only [List.forall_mem_cons]
    exact ⟨rfl, rfl, nofun⟩
  have hslash : ∀ m ∈ ['\\'], m.isAlpha = false := by
    simp only [List.forall_mem_cons]
    exact ⟨rfl, nofun⟩
  unfold splitName
  rw [splitLast?_asciiLower hcolons, splitLast?_asciiLower hslash]
  cases splitLast? [':', ':'] cs with
  | some cut => simp [Scope.asciiLower]
  | none =>
    cases splitLast? ['\\'] cs with
    | some cut => simp [Scope.asciiLower]
    | none => rfl

namespace Scope

theorem isClass_asciiLower (scope : Scope) : scope.asciiLower.isClass = scope.isClass := by
  cases scope <;> rfl

theorem lower_asciiLower (scope : Scope) : scope.asciiLower.lower = scope.lower := by
  cases scope with
  | global => rfl
  | inNamespace name => simp [Scope.lower, Scope.asciiLower, Text.lower_asciiLower]
  | inClass name => simp [Scope.lower, Scope.asciiLower, Text.lower_asciiLower]

theorem any_star_asciiLower (scope : Scope) :
    scope.asciiLower.qualifier?.any (·.toList.contains '*') =
      scope.qualifier?.any (·.toList.contains '*') := by
  have hstar : ∀ cs : List Char, (Text.asciiLower cs).contains '*' = cs.contains '*' := by
    intro cs
    rw [List.contains_eq_any_beq, List.contains_eq_any_beq]
    refine any_asciiLower (fun c => ?_) cs
    rw [Bool.beq_comm, beq_toLower rfl, Bool.beq_comm]
  cases scope with
  | global => rfl
  | inNamespace name =>
    simp only [asciiLower, qualifier?, Option.any_some, String.toList_ofList, hstar]
  | inClass name =>
    simp only [asciiLower, qualifier?, Option.any_some, String.toList_ofList, hstar]

end Scope

/-- Two names taken apart that differ at most in the case of ASCII letters. -/
structure RecasedParts (scope scope' : Scope) (member member' : List Char) : Prop where
  scope : scope.asciiLower = scope'.asciiLower
  member : Recased member member'

section

variable {cs ds : List Char} (h : Recased cs ds)

include h

theorem recased_undecorate : Recased (undecorate cs) (undecorate ds) := by
  unfold Recased at h ⊢
  rw [← undecorate_asciiLower, h, undecorate_asciiLower]

theorem recasedParts_splitName :
    RecasedParts (splitName cs).1 (splitName ds).1 (splitName cs).2 (splitName ds).2 := by
  have hparts := splitName_asciiLower cs
  rw [h, splitName_asciiLower] at hparts
  obtain ⟨hscope, hmember⟩ := Prod.mk.inj hparts
  exact ⟨hscope.symm, hmember.symm⟩

end

namespace RecasedParts

variable {scope scope' : Scope} {member member' : List Char}
  (h : RecasedParts scope scope' member member')

include h

theorem isClass_eq : scope.isClass = scope'.isClass := by
  rw [← Scope.isClass_asciiLower, h.scope, Scope.isClass_asciiLower]

theorem lower_scope_eq : scope.lower = scope'.lower := by
  rw [← Scope.lower_asciiLower, h.scope, Scope.lower_asciiLower]

theorem any_star_eq : scope.qualifier?.any (·.toList.contains '*') =
    scope'.qualifier?.any (·.toList.contains '*') := by
  rw [← Scope.any_star_asciiLower, h.scope, Scope.any_star_asciiLower]

end RecasedParts

/-! ### Patterns -/

/-- The error without the text that it quotes. -/
def PatternError.withoutText : PatternError → PatternError
  | empty => empty
  | emptyMember _ => emptyMember ""
  | wildcardInQualifier _ => wildcardInQualifier ""
  | wildcardNotTrailing _ => wildcardNotTrailing ""
  | multipleWildcards _ => multipleWildcards ""
  | unsupportedMetacharacter _ => unsupportedMetacharacter ""

namespace SymbolPattern

/-- The patterns match the same symbols, and their texts differ at most in the case of ASCII
letters. -/
structure Alike (p p' : SymbolPattern) : Prop where
  symbols : p.symbols = p'.symbols
  text : Recased p.text.toList p'.text.toList

theorem symbolsOf_recased (pattern pattern' : String) {bare bare' member member' : List Char}
    {scope scope' : Scope} (hbare : Recased bare bare')
    (hparts : RecasedParts scope scope' member member') :
    SameOutcome (fun e e' : PatternError => e.withoutText = e'.withoutText) Eq
      (symbolsOf pattern bare scope member) (symbolsOf pattern' bare' scope' member') := by
  have hkey : comparisonKey bare = comparisonKey bare' := (recased_undecorate hbare).lower_eq
  have hcount : member.count '*' = member'.count '*' := hparts.member.count_eq rfl
  have hlast := hparts.member.getLast?_eq_some_iff (m := '*') rfl
  unfold symbolsOf
  rw [hkey, hparts.lower_scope_eq, hparts.member.dropLast.lower_eq, hcount]
  generalize member'.count '*' = stars
  -- No wildcard, one that may be the last character, or too many.
  rcases stars with _ | _ | stars
  · exact .ok rfl
  · -- Whether the wildcard comes last does not depend on the case of other characters.
    by_cases hstar : member'.getLast? = some '*'
    · show SameOutcome _ _ (if member.getLast? = some '*' then _ else _)
        (if member'.getLast? = some '*' then _ else _)
      rw [if_pos (hlast.2 hstar), if_pos hstar]
      exact .ok rfl
    · show SameOutcome _ _ (if member.getLast? = some '*' then _ else _)
        (if member'.getLast? = some '*' then _ else _)
      rw [if_neg (fun h => hstar (hlast.1 h)), if_neg hstar]
      exact .error rfl
  · exact .error rfl

/-- Patterns that differ in the case of ASCII letters are refused for the same reason, or match the
same symbols. -/
theorem compile_recased {pattern pattern' : String}
    (h : Recased pattern.toList pattern'.toList) :
    SameOutcome (fun e e' : PatternError => e.withoutText = e'.withoutText) Alike
      (compile pattern) (compile pattern') := by
  have hbare := recased_undecorate h
  have hparts := recasedParts_splitName hbare
  have hforeign : (undecorate pattern.toList).any isForeignWildcard =
      (undecorate pattern'.toList).any isForeignWildcard := by
    refine hbare.any_eq fun c => ?_
    unfold isForeignWildcard
    rw [beq_toLower rfl, beq_toLower rfl, beq_toLower rfl]
  unfold compile
  dsimp only
  -- The four tests that may refuse a pattern give the same answers.
  rw [hbare.isEmpty_eq, hforeign, hparts.any_star_eq, hparts.member.isEmpty_eq]
  refine .stop_if rfl (.stop_if rfl (.stop_if rfl (.stop_if rfl ?_)))
  have hsymbols := symbolsOf_recased pattern pattern' hbare hparts
  refine hsymbols.map ?_
  rintro symbols _ rfl
  refine ⟨rfl, ?_⟩
  rw [String.toList_ofList, String.toList_ofList]
  exact hbare

end SymbolPattern

/-! ### Symbols -/

/-- The error without the name that it quotes. -/
def SymbolError.withoutName : SymbolError → SymbolError
  | empty => empty
  | emptyMember _ => emptyMember ""

namespace Symbol

/-- The symbols are of one kind, and the same in lower case. -/
structure Alike (s s' : Symbol) : Prop where
  kind : s.kind = s'.kind
  scope : s.scope.lower = s'.scope.lower
  member : Text.lower s.member.toList = Text.lower s'.member.toList
  key : s.key = s'.key

/-- Names that differ in the case of ASCII letters are refused for the same reason, or spell
symbols that are the same in lower case. -/
theorem parse_recased {name name' : String} (h : Recased name.toList name'.toList)
    (kind : SymbolKind) :
    SameOutcome (fun e e' : SymbolError => e.withoutName = e'.withoutName) Alike
      (parse name kind) (parse name' kind) := by
  have hbare := recased_undecorate h
  have hparts := recasedParts_splitName hbare
  have hkey : comparisonKey (undecorate name.toList) = comparisonKey (undecorate name'.toList) :=
    (recased_undecorate hbare).lower_eq
  unfold parse
  dsimp only
  rw [hbare.isEmpty_eq, hparts.member.isEmpty_eq]
  refine .stop_if rfl (.stop_if rfl ?_)
  apply SameOutcome.ok
  constructor
  case kind =>
    dsimp only
    rw [kindIn, kindIn, hparts.isClass_eq]
  case scope =>
    dsimp only
    exact hparts.lower_scope_eq
  case member =>
    rw [String.toList_ofList, String.toList_ofList, hparts.member.lower_eq]
  case key =>
    rw [hkey]

end Symbol

/-- Patterns cannot tell symbols apart that are the same in lower case. -/
theorem SymbolPattern.covers_alike {p p' : SymbolPattern} {s s' : Symbol} (hp : p.Alike p')
    (hs : s.Alike s') : p.covers s = p'.covers s' := by
  unfold SymbolPattern.covers
  rw [hp.symbols]
  cases p'.symbols with
  | named key => rw [SymbolSet.contains, SymbolSet.contains, hs.key]
  | members scope stem => rw [SymbolSet.contains, SymbolSet.contains, hs.scope, hs.member]

end CallPolicy
