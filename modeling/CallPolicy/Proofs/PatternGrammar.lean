import CallPolicy.Proofs.WildcardPatterns

namespace CallPolicy

open Text

/-!
# The grammar of patterns

* `NameCut` — where a name is taken apart; `nameCut_splitName`, `splitName_of_nameCut` — it is taken
  apart there.
* `PatternError.Applies`, `PatternError.byPriority` — what each error says is wrong with a text, and
  which of them is reported.
* `SymbolPattern.IsPatternText` — the texts with nothing wrong, told without the errors.
* `SymbolPattern.compile_grammar` — these are accepted, and any other text is refused with the first
  error that applies to it.
-/

/-! ### Where names are taken apart -/

/-- The member of a name stands behind the last `::`, or else behind the last `\`, or else it is all
of the name. `before` is the text in front of that separator. -/
inductive NameCut (cs : List Char) : List Char → List Char → Prop
  | inClass {before member : List Char} :
    cs = before ++ [':', ':'] ++ member → ¬ [':', ':'] <:+: ':' :: member → NameCut cs before member
  | inNamespace {before member : List Char} :
    ¬ [':', ':'] <:+: cs → cs = before ++ ['\\'] ++ member → '\\' ∉ member →
      NameCut cs before member
  | global : ¬ [':', ':'] <:+: cs → '\\' ∉ cs → NameCut cs [] cs

/-- The name of a scope, as spelled. -/
def Scope.spelling : Scope → List Char
  | .global => []
  | .inNamespace name | .inClass name => name.toList

theorem Scope.star_mem_lead_iff (scope : Scope) : '*' ∈ scope.lead ↔ '*' ∈ scope.spelling := by
  cases scope <;> simp [lead, spelling]

theorem Scope.any_contains_star_iff (scope : Scope) :
    scope.qualifier?.any (·.toList.contains '*') = true ↔ '*' ∈ scope.spelling := by
  rw [any_contains_star, List.contains_iff_mem, star_mem_lead_iff]

theorem nameCut_splitName (cs : List Char) :
    NameCut cs (splitName cs).1.spelling (splitName cs).2 := by
  rcases splitName_cases cs with ⟨cls, member, hcut⟩ | ⟨hnone, space, member, hcut⟩ |
    ⟨hnone, hspace⟩
  · obtain ⟨hcs, hbehind⟩ := splitLast?_eq_some_iff.1 hcut
    rw [splitName_of_class hcut]
    simpa [Scope.spelling] using NameCut.inClass hcs (splitLast?_eq_none_iff.1 hbehind)
  · obtain ⟨hcs, hbehind⟩ := splitLast?_eq_some_iff.1 hcut
    rw [splitName_of_namespace hnone hcut]
    simpa [Scope.spelling] using NameCut.inNamespace (splitLast?_eq_none_iff.1 hnone) hcs
      (splitLast?_singleton_eq_none_iff.1 hbehind)
  · rw [splitName_of_global hnone hspace]
    exact NameCut.global (splitLast?_eq_none_iff.1 hnone) hspace

/-- There is one place at which a name is taken apart. -/
theorem splitName_of_nameCut {cs before member : List Char} (h : NameCut cs before member) :
    (splitName cs).1.spelling = before ∧ (splitName cs).2 = member := by
  cases h with
  | inClass hcs hbehind =>
    rw [splitName_of_class (splitLast?_eq_some_iff.2 ⟨hcs, splitLast?_eq_none_iff.2 hbehind⟩)]
    exact ⟨String.toList_ofList, rfl⟩
  | inNamespace hnone hcs hbehind =>
    rw [splitName_of_namespace (splitLast?_eq_none_iff.2 hnone)
      (splitLast?_eq_some_iff.2 ⟨hcs, splitLast?_singleton_eq_none_iff.2 hbehind⟩)]
    exact ⟨String.toList_ofList, rfl⟩
  | global hnone hspace =>
    rw [splitName_of_global (splitLast?_eq_none_iff.2 hnone) hspace]
    exact ⟨rfl, rfl⟩

/-! ### What is wrong with a text -/

namespace PatternError

/-- What an error says of a text whose cut is between `before` and `member`. -/
def Applies (cs before member : List Char) : PatternError → Prop
  | empty => cs = []
  | unsupportedMetacharacter _ => '?' ∈ cs ∨ '[' ∈ cs ∨ ']' ∈ cs
  | wildcardInQualifier _ => '*' ∈ before
  | emptyMember _ => member = []
  | wildcardNotTrailing _ => member.count '*' = 1 ∧ member.getLast? ≠ some '*'
  | multipleWildcards _ => 2 ≤ member.count '*'

instance (cs before member : List Char) : DecidablePred (Applies cs before member)
  | empty => inferInstanceAs (Decidable (cs = []))
  | unsupportedMetacharacter _ => inferInstanceAs (Decidable ('?' ∈ cs ∨ '[' ∈ cs ∨ ']' ∈ cs))
  | wildcardInQualifier _ => inferInstanceAs (Decidable ('*' ∈ before))
  | emptyMember _ => inferInstanceAs (Decidable (member = []))
  | wildcardNotTrailing _ =>
    inferInstanceAs (Decidable (member.count '*' = 1 ∧ member.getLast? ≠ some '*'))
  | multipleWildcards _ => inferInstanceAs (Decidable (2 ≤ member.count '*'))

/-- The errors of a pattern; an earlier one is reported rather than a later one. -/
def byPriority (pattern : String) : List PatternError :=
  [empty, unsupportedMetacharacter pattern, wildcardInQualifier pattern, emptyMember pattern,
    wildcardNotTrailing pattern, multipleWildcards pattern]

end PatternError

namespace SymbolPattern

open PatternError

/-! ### The tests of patterns -/

theorem any_isForeignWildcard_iff (cs : List Char) :
    cs.any isForeignWildcard = true ↔ '?' ∈ cs ∨ '[' ∈ cs ∨ ']' ∈ cs := by
  simp only [List.any_eq_true, isForeignWildcard, Bool.or_eq_true, beq_iff_eq]
  constructor
  · rintro ⟨c, hc, (rfl | rfl) | rfl⟩
    · exact Or.inl hc
    · exact Or.inr (Or.inl hc)
    · exact Or.inr (Or.inr hc)
  · rintro (h | h | h)
    · exact ⟨_, h, Or.inl (Or.inl rfl)⟩
    · exact ⟨_, h, Or.inl (Or.inr rfl)⟩
    · exact ⟨_, h, Or.inr rfl⟩

/-- The tests of a member, with the errors first. -/
theorem symbolsOf_eq_ite (pattern : String) (bare : List Char) (scope : Scope)
    (member : List Char) :
    symbolsOf pattern bare scope member =
      if member.count '*' = 1 ∧ member.getLast? ≠ some '*' then
        .error (.wildcardNotTrailing pattern)
      else if 2 ≤ member.count '*' then .error (.multipleWildcards pattern)
      else if member.count '*' = 1 then
        .ok (.members scope.lower (String.ofList (lower member.dropLast)))
      else .ok (.named (String.ofList (comparisonKey bare))) := by
  unfold symbolsOf
  split
  case h_1 hcount => simp [hcount]
  case h_2 hcount => simp [hcount]
  case h_3 hzero hone =>
    have hcount : 2 ≤ member.count '*' := by
      rw [imp_false] at hzero hone
      omega
    rw [if_neg (by omega), if_pos hcount]

/-- The error is the first one that applies to the text. -/
def IsFirstError (pattern : String) (cs : List Char) (e : PatternError) : Prop :=
  ∃ before member, NameCut cs before member ∧
    (byPriority pattern).find? (Applies cs before member ·) = some e

/-- The tests of `compile` are made in order of priority. -/
theorem compile_eq_error_iff_find {text : String} {before member : List Char}
    (hcut : NameCut (undecorate text.toList) before member) (e : PatternError) :
    compile text = .error e ↔
      (byPriority text).find? (Applies (undecorate text.toList) before member ·) = some e := by
  obtain ⟨rfl, rfl⟩ := splitName_of_nameCut hcut
  unfold compile byPriority
  generalize undecorate text.toList = cs
  dsimp only
  -- Each test of the text is the next error of the list, and so are the two of the member.
  refine ite_eq_error_iff (by simp [Applies]) fun _ => ?_
  refine ite_eq_error_iff (any_isForeignWildcard_iff cs) fun _ => ?_
  refine ite_eq_error_iff (Scope.any_contains_star_iff _) fun _ => ?_
  refine ite_eq_error_iff (by simp [Applies]) fun _ => ?_
  rw [map_eq_error_iff, symbolsOf_eq_ite]
  generalize (splitName cs).2 = member, (splitName cs).1.spelling = before
  refine ite_eq_error_iff Iff.rfl fun _ => ?_
  refine ite_eq_error_iff Iff.rfl fun _ => ?_
  split <;> simp

theorem compile_eq_error_iff (text : String) (e : PatternError) :
    compile text = .error e ↔ IsFirstError text (undecorate text.toList) e := by
  constructor
  · intro h
    exact ⟨_, _, nameCut_splitName _, (compile_eq_error_iff_find (nameCut_splitName _) e).1 h⟩
  · rintro ⟨before, member, hcut, hfind⟩
    exact (compile_eq_error_iff_find hcut e).2 hfind

/-! ### Texts with nothing wrong -/

/-- A text that is a pattern once it is undecorated. -/
structure IsPatternText (cs : List Char) : Prop where
  ne : cs ≠ []
  noForeign : ¬ ('?' ∈ cs ∨ '[' ∈ cs ∨ ']' ∈ cs)
  hasMember : ∃ before member, NameCut cs before member ∧ member ≠ []
  /-- A `*` may stand at the very end only. -/
  starLast : '*' ∉ cs.dropLast

theorem star_not_mem_dropLast_iff (member : List Char) :
    '*' ∉ member.dropLast ↔
      ¬ (member.count '*' = 1 ∧ member.getLast? ≠ some '*') ∧ ¬ 2 ≤ member.count '*' := by
  rcases List.eq_nil_or_concat member with rfl | ⟨front, c, rfl⟩
  · simp
  · rw [List.concat_eq_append, List.dropLast_concat, List.getLast?_concat, List.count_append,
      List.count_singleton, ← List.count_eq_zero]
    by_cases hc : c = '*'
    · rw [if_pos (by simp [hc]), hc]
      simp only [ne_eq, not_true, and_false, not_false_eq_true, true_and]
      omega
    · rw [if_neg (by simpa using hc)]
      simp only [ne_eq, Option.some.injEq, hc, not_false_eq_true, and_true]
      omega

theorem star_not_mem_dropLast_append_iff {cs before member : List Char}
    (hcut : NameCut cs before member) (hmember : member ≠ []) :
    '*' ∉ cs.dropLast ↔ '*' ∉ before ∧ '*' ∉ member.dropLast := by
  obtain ⟨rfl, rfl⟩ := splitName_of_nameCut hcut
  rw [← Scope.star_mem_lead_iff, ← not_or, ← List.mem_append,
    ← List.dropLast_append_of_ne_nil hmember, lead_append_splitName]

/-- A text is a pattern exactly if no error applies to it. -/
theorem isPatternText_iff {cs before member : List Char} (hcut : NameCut cs before member)
    (pattern : String) :
    IsPatternText cs ↔
      (byPriority pattern).find? (Applies cs before member ·) = none := by
  rw [List.find?_eq_none]
  simp only [decide_eq_true_eq]
  simp only [byPriority, List.forall_mem_cons, Applies]
  constructor
  · intro h
    obtain ⟨before', member', hcut', hmember⟩ := h.hasMember
    -- There is only one cut, so this is the member that is meant.
    obtain ⟨rfl, rfl⟩ := splitName_of_nameCut hcut
    obtain ⟨-, rfl⟩ := splitName_of_nameCut hcut'
    obtain ⟨hbefore, hstar⟩ := (star_not_mem_dropLast_append_iff hcut hmember).1 h.starLast
    obtain ⟨hone, htwo⟩ := (star_not_mem_dropLast_iff _).1 hstar
    exact ⟨h.ne, h.noForeign, hbefore, hmember, hone, htwo, nofun⟩
  · rintro ⟨hne, hforeign, hbefore, hmember, hone, htwo, -⟩
    refine ⟨hne, hforeign, ⟨before, member, hcut, hmember⟩, ?_⟩
    rw [star_not_mem_dropLast_append_iff hcut hmember, star_not_mem_dropLast_iff]
    exact ⟨hbefore, hone, htwo⟩

theorem exists_compile_iff (text : String) :
    (∃ p, compile text = .ok p) ↔ IsPatternText (undecorate text.toList) := by
  have hcut := nameCut_splitName (undecorate text.toList)
  have herror := compile_eq_error_iff_find hcut
  rw [isPatternText_iff hcut text]
  constructor
  · rintro ⟨p, hp⟩
    rw [Option.eq_none_iff_forall_ne_some]
    intro e he
    rw [← herror, hp] at he
    cases he
  · intro hnone
    cases hcompile : compile text with
    | ok p => exact ⟨p, rfl⟩
    | error e =>
      rw [herror, hnone] at hcompile
      cases hcompile

theorem getLast?_of_splitName {cs member : List Char} {scope : Scope}
    (hsplit : splitName cs = (scope, member)) (hmember : member ≠ []) :
    cs.getLast? = member.getLast? := by
  rw [← lead_append_splitName cs, hsplit, List.getLast?_append_of_ne_nil _ hmember]

theorem isWildcard_iff {text : String} {p : SymbolPattern} (h : compile text = .ok p) :
    p.isWildcard = true ↔ (undecorate text.toList).getLast? = some '*' := by
  obtain ⟨scope, member, hp⟩ := compile_eq_ok h
  rw [← hp.text_eq, getLast?_of_splitName hp.split_eq hp.member_ne]
  rcases symbolsOf_eq_ok hp.symbols_eq with ⟨hstar, hsymbols⟩ | ⟨stem, rfl, -, hsymbols⟩
  · rw [isWildcard, hsymbols]
    exact ⟨nofun, fun hlast => absurd (List.mem_of_getLast? hlast) hstar⟩
  · rw [isWildcard, hsymbols]
    simp

/-- **The grammar of patterns.** A text is accepted exactly if it is a pattern once it is
undecorated; it is kept like this, and is a wildcard if it ends in `*`. Any other text is refused,
with the first error that applies to it. -/
theorem compile_grammar (text : String) :
    ((∃ p, compile text = .ok p) ↔ IsPatternText (undecorate text.toList)) ∧
    (∀ p, compile text = .ok p → p.text.toList = undecorate text.toList ∧
      (p.isWildcard = true ↔ (undecorate text.toList).getLast? = some '*')) ∧
    ∀ e, compile text = .error e ↔ IsFirstError text (undecorate text.toList) e := by
  refine ⟨exists_compile_iff text, fun p hp => ?_, compile_eq_error_iff text⟩
  obtain ⟨_, _, hcompiled⟩ := compile_eq_ok hp
  exact ⟨hcompiled.text_eq, isWildcard_iff hp⟩

/-- ` \A\B:::c\d*()` is a pattern: the last `::` leaves one `:` to the class, and a member of a
class may hold backslashes. -/
theorem compile_grammar_colons :
    compile " \\A\\B:::c\\d*()" = .ok {
      text := "A\\B:::c\\d*"
      symbols := .members (.inClass "a\\b:") "c\\d" } ∧
    IsPatternText (undecorate " \\A\\B:::c\\d*()".toList) ∧
    "A\\B:::c\\d*".toList = undecorate " \\A\\B:::c\\d*()".toList ∧
    (undecorate " \\A\\B:::c\\d*()".toList).getLast? = some '*' := by
  have hcompile : compile " \\A\\B:::c\\d*()" = .ok {
      text := "A\\B:::c\\d*"
      symbols := .members (.inClass "a\\b:") "c\\d" } := by decide +kernel
  obtain ⟨haccepted, hok, -⟩ := compile_grammar " \\A\\B:::c\\d*()"
  obtain ⟨htext, hwildcard⟩ := hok _ hcompile
  exact ⟨hcompile, haccepted.1 ⟨_, hcompile⟩, htext, hwildcard.1 rfl⟩

-- Here two errors apply: the class holds a `*`, and there is no member.
example : compile "A*::" = .error (.wildcardInQualifier "A*::") := by decide +kernel

end SymbolPattern

end CallPolicy
