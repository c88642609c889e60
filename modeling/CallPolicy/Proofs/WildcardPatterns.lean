import CallPolicy.Proofs.Outcome
import CallPolicy.Proofs.Spelling

namespace CallPolicy

open Text

/-!
# What patterns see of a symbol

* `Symbol.visible?` — all that a pattern with a wildcard can see of a symbol.
* `SymbolPattern.IsAccepted` — `compile` makes the pattern from some text.
* `SymbolPattern.covers_iff_of_named`, `SymbolPattern.covers_iff_of_stem` — a pattern tests the
  key, or a stem of what is visible.
* `Symbol.exists_stem_pattern`, `Symbol.exists_key_pattern` — parsed symbols can be named by either
  kind of pattern.
-/

namespace SymbolPattern

/-! ### Special characters -/

/-- A character that no name in a pattern holds. -/
def isSpecial (c : Char) : Bool :=
  c == '*' || isForeignWildcard c

theorem isMark_of_isSpecial (c : Char) (h : isSpecial c = true) : isMark c = true := by
  simp only [isSpecial, isForeignWildcard, Bool.or_eq_true, beq_iff_eq] at h
  rcases h with rfl | (rfl | rfl) | rfl <;> rfl

theorem isBreak_of_isSpecial (c : Char) (h : isSpecial c = true) : isBreak c = true := by
  simp only [isSpecial, isForeignWildcard, Bool.or_eq_true, beq_iff_eq] at h
  rcases h with rfl | (rfl | rfl) | rfl <;> rfl

theorem any_isSpecial_eq_false_iff (cs : List Char) :
    cs.any isSpecial = false ↔
      cs.contains '*' = false ∧ cs.any isForeignWildcard = false := by
  induction cs with
  | nil => simp
  | cons c rest ih =>
    simp only [List.any_cons, List.contains_cons, Bool.or_eq_false_iff, ih, isSpecial]
    rw [beq_eq_false_iff_ne, beq_eq_false_iff_ne]
    constructor
    · rintro ⟨⟨hstar, hforeign⟩, hrest⟩
      exact ⟨⟨Ne.symm hstar, hrest.1⟩, hforeign, hrest.2⟩
    · rintro ⟨⟨hstar, hrest⟩, hforeign, hrest'⟩
      exact ⟨⟨Ne.symm hstar, hforeign⟩, hrest, hrest'⟩

end SymbolPattern

open SymbolPattern

/-- A special character stands in the namespace or class. -/
def Scope.hasSpecial (scope : Scope) : Bool :=
  scope.qualifier?.any (·.toList.any isSpecial)

theorem Scope.hasSpecial_lower (scope : Scope) : scope.lower.hasSpecial = scope.hasSpecial := by
  cases scope with
  | global => rfl
  | inNamespace name => simp [hasSpecial, Scope.lower, qualifier?, any_lower isMark_of_isSpecial]
  | inClass name => simp [hasSpecial, Scope.lower, qualifier?, any_lower isMark_of_isSpecial]

theorem Scope.hasSpecial_eq_any_lead (scope : Scope) :
    scope.hasSpecial = scope.lead.any isSpecial := by
  have hseparators : isSpecial '\\' = false ∧ isSpecial ':' = false := ⟨rfl, rfl⟩
  cases scope with
  | global => rfl
  | inNamespace name => simp [hasSpecial, qualifier?, lead, hseparators]
  | inClass name => simp [hasSpecial, qualifier?, lead, hseparators]

theorem Scope.any_contains_star (scope : Scope) :
    scope.qualifier?.any (·.toList.contains '*') = scope.lead.contains '*' := by
  cases scope with
  | global => rfl
  | inNamespace name => simp [qualifier?, lead]
  | inClass name => simp [qualifier?, lead]

namespace Symbol

/-- What a wildcard can see of a symbol, all in lower case: its scope, and its member up to the
first special character. A scope with special characters is out of reach. -/
def visible? (s : Symbol) : Option (Scope × List Char) :=
  if s.scope.hasSpecial then none
  else some (s.scope.lower, (lower s.member.toList).takeWhile (!isSpecial ·))

/-- The symbol is what some name spells. -/
def IsParsed (s : Symbol) : Prop :=
  ∃ name kind, Symbol.parse name kind = .ok s

theorem parse_eq_ok {name : String} {kind : SymbolKind} {s : Symbol}
    (h : Symbol.parse name kind = .ok s) :
    splitName (undecorate name.toList) = (s.scope, s.member.toList) ∧ s.member.toList ≠ [] ∧
      s.key = String.ofList (comparisonKey (undecorate name.toList)) := by
  unfold Symbol.parse at h
  dsimp only at h
  split at h
  · cases h
  split at h
  · cases h
  rename_i hmember
  rw [Except.ok.injEq] at h
  subst h
  exact ⟨by simp, by simpa using hmember, rfl⟩

/-- A name with a member spells a symbol. -/
theorem parse_of_split {name : String} {scope : Scope} {member : List Char}
    (hsplit : splitName (undecorate name.toList) = (scope, member)) (hmember : member ≠ [])
    (kind : SymbolKind) :
    parse name kind = .ok {
      kind := kindIn scope kind
      scope
      member := String.ofList member
      key := String.ofList (comparisonKey (undecorate name.toList)) } := by
  have hbareEmpty : (undecorate name.toList).isEmpty = false := isEmpty_of_splitName hsplit hmember
  have hmemberEmpty : member.isEmpty = false := List.isEmpty_eq_false_iff.2 hmember
  unfold parse
  simp only [hsplit, hbareEmpty, hmemberEmpty, Bool.false_eq_true, if_false]

/-- A member of a class is a method, and nothing else is. -/
theorem isMethod_kindIn (scope : Scope) (kind : SymbolKind) :
    (kindIn scope kind).isMethod = scope.isClass := by
  unfold kindIn
  cases scope.isClass with
  | false => rfl
  | true => cases kind <;> rfl

theorem kind_of_parse {name : String} {kind : SymbolKind} {s : Symbol}
    (h : parse name kind = .ok s) : s.kind = kindIn s.scope kind := by
  obtain ⟨hsplit, hmember, -⟩ := parse_eq_ok h
  rw [parse_of_split hsplit hmember kind, Except.ok.injEq] at h
  rw [← h]

theorem isMethod_of_parse {name : String} {kind : SymbolKind} {s : Symbol}
    (h : parse name kind = .ok s) : s.kind.isMethod = s.scope.isClass := by
  rw [kind_of_parse h, isMethod_kindIn]

end Symbol

namespace SymbolPattern

/-! ### Accepted patterns -/

/-- The pattern is what some text spells. -/
def IsAccepted (p : SymbolPattern) : Prop :=
  ∃ text, compile text = .ok p

/-- The scope and member of a pattern are found by the tests of `compile`. -/
theorem compile_eq_map {text : String} {bare member : List Char} {scope : Scope}
    (hbare : undecorate text.toList = bare) (hsplit : splitName bare = (scope, member))
    (hmember : member ≠ []) (hforeign : bare.any isForeignWildcard = false)
    (hscope : scope.hasSpecial = false) :
    compile text = (symbolsOf text bare scope member).map fun symbols =>
      { text := String.ofList bare, symbols } := by
  have hbareEmpty : bare.isEmpty = false := isEmpty_of_splitName hsplit hmember
  have hmemberEmpty : member.isEmpty = false := List.isEmpty_eq_false_iff.2 hmember
  have hqualifier : scope.qualifier?.any (·.toList.contains '*') = false := by
    rw [Scope.any_contains_star]
    rw [Scope.hasSpecial_eq_any_lead, any_isSpecial_eq_false_iff] at hscope
    exact hscope.1
  unfold compile
  simp only [hbare, hsplit, hbareEmpty, hforeign, hqualifier, hmemberEmpty, Bool.false_eq_true,
    if_false]

/-- A name without special characters is a pattern for its key. -/
theorem compile_of_name {text : String} {scope : Scope} {member : List Char}
    (hsplit : splitName (undecorate text.toList) = (scope, member)) (hmember : member ≠ [])
    (hfree : (undecorate text.toList).any isSpecial = false) :
    compile text = .ok {
      text := String.ofList (undecorate text.toList)
      symbols := .named (String.ofList (comparisonKey (undecorate text.toList))) } := by
  have hlead : scope.lead ++ member = undecorate text.toList := by
    rw [← lead_append_splitName (undecorate text.toList), hsplit]
  have hparts := hfree
  rw [← hlead, List.any_append, Bool.or_eq_false_iff, ← Scope.hasSpecial_eq_any_lead] at hparts
  have hcount : member.count '*' = 0 := by
    rw [List.count_eq_zero]
    simpa using ((any_isSpecial_eq_false_iff member).1 hparts.2).1
  rw [compile_eq_map rfl hsplit hmember ((any_isSpecial_eq_false_iff _).1 hfree).2 hparts.1,
    symbolsOf, hcount]
  rfl

/-- A stem with a final `*`, in a scope, is a pattern for the members with that stem. -/
theorem compile_of_stem {text : String} {scope : Scope} {stem : List Char}
    (hbare : undecorate text.toList = scope.lead ++ stem ++ ['*'])
    (hsplit : splitName (scope.lead ++ stem ++ ['*']) = (scope, stem ++ ['*']))
    (hscope : scope.hasSpecial = false) (hstem : stem.any isSpecial = false) :
    compile text = .ok {
      text := String.ofList (scope.lead ++ stem ++ ['*'])
      symbols := .members scope.lower (String.ofList (lower stem)) } := by
  have hfree := (any_isSpecial_eq_false_iff stem).1 hstem
  have hforeign : (scope.lead ++ stem ++ ['*']).any isForeignWildcard = false := by
    have hlead := hscope
    rw [Scope.hasSpecial_eq_any_lead, any_isSpecial_eq_false_iff] at hlead
    rw [List.any_append, List.any_append, hlead.2, hfree.2]
    rfl
  have hcount : (stem ++ ['*']).count '*' = 1 := by
    have hnone : stem.count '*' = 0 := by
      rw [List.count_eq_zero]
      simpa using hfree.1
    rw [List.count_append, hnone]
    rfl
  have hlast : (stem ++ ['*']).getLast? = some '*' := by simp
  have hdrop : (stem ++ ['*']).dropLast = stem := by simp
  rw [compile_eq_map hbare hsplit (by simp) hforeign hscope, symbolsOf, hcount]
  simp only [hlast, hdrop, if_true]
  rfl

/-- What the member of a pattern is turned into. -/
theorem symbolsOf_eq_ok {text : String} {bare member : List Char} {scope : Scope}
    {symbols : SymbolSet} (h : symbolsOf text bare scope member = .ok symbols) :
    ('*' ∉ member ∧ symbols = .named (String.ofList (comparisonKey bare))) ∨
      ∃ stem, member = stem ++ ['*'] ∧ '*' ∉ stem ∧
        symbols = .members scope.lower (String.ofList (lower stem)) := by
  unfold symbolsOf at h
  split at h
  · rename_i hcount
    exact Or.inl ⟨List.count_eq_zero.1 hcount, (Except.ok.inj h).symm⟩
  · rename_i hcount
    split at h
    · rename_i hlast
      obtain ⟨stem, rfl⟩ := List.getLast?_eq_some_iff.1 hlast
      have hnone : stem.count '*' = 0 := by simpa using hcount
      rw [List.dropLast_concat] at h
      exact Or.inr ⟨stem, rfl, List.count_eq_zero.1 hnone, (Except.ok.inj h).symm⟩
    · cases h
  · cases h

/-- What `compile` has checked of a pattern that it accepts. -/
structure Compiled (text : String) (p : SymbolPattern) (scope : Scope) (member : List Char) :
    Prop where
  text_eq : p.text.toList = undecorate text.toList
  split_eq : splitName p.text.toList = (scope, member)
  member_ne : member ≠ []
  noForeign : p.text.toList.any isForeignWildcard = false
  noStar : scope.lead.contains '*' = false
  symbols_eq : symbolsOf text p.text.toList scope member = .ok p.symbols

theorem compile_eq_ok {text : String} {p : SymbolPattern} (h : compile text = .ok p) :
    ∃ scope member, Compiled text p scope member := by
  unfold compile at h
  dsimp only at h
  split at h
  · cases h
  split at h
  · cases h
  rename_i hforeign
  split at h
  · cases h
  rename_i hqualifier
  split at h
  · cases h
  rename_i hmember
  obtain ⟨symbols, hsymbols, rfl⟩ := exists_of_map_eq_ok h
  refine ⟨(splitName (undecorate text.toList)).1, (splitName (undecorate text.toList)).2, ?_⟩
  constructor
  case text_eq => exact String.toList_ofList
  case split_eq => rw [String.toList_ofList]
  case member_ne => simpa using hmember
  case noForeign => simpa using hforeign
  case noStar =>
    rw [← Scope.any_contains_star]
    simpa using hqualifier
  -- All tests are passed, so the pattern is what its member is turned into.
  case symbols_eq =>
    rw [String.toList_ofList]
    exact hsymbols

/-- An accepted pattern is a key, or a scope and a stem without special characters. -/
theorem symbols_of_accepted {p : SymbolPattern} (h : p.IsAccepted) :
    (∃ key, p.symbols = .named key) ∨
      ∃ (scope : Scope) (stem : List Char),
        p.symbols = .members scope.lower (String.ofList (lower stem)) ∧
          scope.hasSpecial = false ∧ stem.any isSpecial = false := by
  obtain ⟨text, htext⟩ := h
  obtain ⟨scope, member, hp⟩ := compile_eq_ok htext
  have hforeign := hp.noForeign
  rw [← lead_append_splitName p.text.toList, hp.split_eq, List.any_append, Bool.or_eq_false_iff]
    at hforeign
  rcases symbolsOf_eq_ok hp.symbols_eq with ⟨-, hkey⟩ | ⟨stem, rfl, hstem, hmembers⟩
  · exact Or.inl ⟨_, hkey⟩
  · refine Or.inr ⟨scope, stem, hmembers, ?_, ?_⟩
    · rw [Scope.hasSpecial_eq_any_lead, any_isSpecial_eq_false_iff]
      exact ⟨hp.noStar, hforeign.1⟩
    · rw [List.any_append, Bool.or_eq_false_iff] at hforeign
      rw [any_isSpecial_eq_false_iff]
      exact ⟨by simpa using hstem, hforeign.2.1⟩

/-! ### What accepted patterns test -/

theorem covers_iff_of_named {p : SymbolPattern} {key : String} (h : p.symbols = .named key)
    (s : Symbol) : p.covers s = true ↔ s.key = key := by
  rw [covers, h, SymbolSet.contains, beq_iff_eq]
  exact eq_comm

/-- A wildcard tests what it can see. -/
theorem covers_iff_of_stem {p : SymbolPattern} {scope : Scope} {stem : List Char}
    (h : p.symbols = .members scope.lower (String.ofList (lower stem)))
    (hscope : scope.hasSpecial = false) (hstem : stem.any isSpecial = false) (s : Symbol) :
    p.covers s = true ↔
      ∃ member, s.visible? = some (scope.lower, member) ∧ lower stem <+: member := by
  -- The stem has no special characters, so it does not matter that the member is cut short.
  have hfree : ∀ c ∈ lower stem, (!isSpecial c) = true := by
    rw [← any_lower isMark_of_isSpecial, List.any_eq_false] at hstem
    intro c hc
    simpa using hstem c hc
  rw [covers, h, SymbolSet.contains, Bool.and_eq_true, beq_iff_eq, String.toList_ofList,
    List.isPrefixOf_iff_prefix]
  constructor
  · rintro ⟨hlower, tail, htail⟩
    have hnone : s.scope.hasSpecial = false := by
      rw [← Scope.hasSpecial_lower, hlower, Scope.hasSpecial_lower, hscope]
    refine ⟨_, by rw [Symbol.visible?, hnone, hlower]; rfl, ?_⟩
    rw [← htail, List.takeWhile_append_of_pos hfree]
    exact List.prefix_append _ _
  · rintro ⟨member, hvisible, hprefix⟩
    unfold Symbol.visible? at hvisible
    split at hvisible
    · cases hvisible
    · obtain ⟨hlower, rfl⟩ := Prod.mk.inj (Option.some.inj hvisible)
      exact ⟨hlower, hprefix.trans (List.takeWhile_prefix _)⟩

/-- An accepted pattern cannot tell symbols apart that have one key and look alike. -/
theorem covers_eq_of_visible_eq {p : SymbolPattern} (hp : p.IsAccepted) {a b : Symbol}
    (hkey : a.key = b.key) (hvisible : a.visible? = b.visible?) : p.covers a = p.covers b := by
  rw [Bool.eq_iff_iff]
  rcases symbols_of_accepted hp with ⟨key, hnamed⟩ | ⟨scope, stem, hmembers, hscope, hstem⟩
  · rw [covers_iff_of_named hnamed, covers_iff_of_named hnamed, hkey]
  · rw [covers_iff_of_stem hmembers hscope hstem, covers_iff_of_stem hmembers hscope hstem,
      hvisible]

end SymbolPattern

/-! ### Patterns for a given symbol -/

namespace Symbol

/-- No special character stands in the symbol. -/
def IsNameable (s : Symbol) : Prop :=
  s.scope.hasSpecial = false ∧ s.member.toList.any isSpecial = false

/-- All that is visible of a parsed symbol can be asked for. -/
theorem exists_stem_pattern {s : Symbol} (hs : s.IsParsed) {scope : Scope} {member : List Char}
    (hvisible : s.visible? = some (scope, member)) :
    ∃ p : SymbolPattern, p.IsAccepted ∧ ∀ t : Symbol,
      p.covers t = true ↔ ∃ member', t.visible? = some (scope, member') ∧ member <+: member' := by
  obtain ⟨name, kind, hparse⟩ := hs
  obtain ⟨hsplit, -, -⟩ := parse_eq_ok hparse
  unfold visible? at hvisible
  split at hvisible
  · cases hvisible
  rename_i hscope
  rw [Bool.not_eq_true] at hscope
  obtain ⟨rfl, rfl⟩ := Prod.mk.inj (Option.some.inj hvisible)
  rw [takeWhile_lower isMark_of_isSpecial isBreak_of_isSpecial]
  -- The pattern is spelled as the name is, up to the end of the stem.
  have hmember : s.member.toList = s.member.toList.takeWhile (!isSpecial ·) ++
      s.member.toList.dropWhile (!isSpecial ·) := List.takeWhile_append_dropWhile.symm
  have hstem : (s.member.toList.takeWhile (!isSpecial ·)).any isSpecial = false := by
    rw [List.any_eq_false]
    intro c hc
    simpa using List.mem_takeWhile_imp hc
  have hbare := lead_append_splitName (undecorate name.toList)
  rw [hmember] at hsplit
  rw [hsplit] at hbare
  generalize s.member.toList.takeWhile (!isSpecial ·) = stem at *
  -- The backslash in front of the pattern protects blanks at the start of the scope.
  have hhead : (s.scope.lead ++ stem).head? ≠ some '\\' := by
    have hfirst := head?_undecorate_ne name.toList
    rw [← hbare, ← List.append_assoc] at hfirst
    intro h
    rw [List.head?_append, h] at hfirst
    exact hfirst rfl
  have htext : undecorate (String.ofList ('\\' :: (s.scope.lead ++ stem) ++ ['*'])).toList =
      s.scope.lead ++ stem ++ ['*'] := by
    rw [String.toList_ofList, undecorate_of_wildcard hhead]
  refine ⟨_, ⟨_, compile_of_stem htext (splitName_wildcard hsplit) hscope hstem⟩, fun t => ?_⟩
  exact covers_iff_of_stem rfl hscope hstem t

/-- A nameable symbol can be asked for by its key. -/
theorem exists_key_pattern {s : Symbol} (hs : s.IsParsed) (hname : s.IsNameable) :
    ∃ p : SymbolPattern, p.IsAccepted ∧ ∀ t : Symbol, p.covers t = true ↔ t.key = s.key := by
  obtain ⟨name, kind, hparse⟩ := hs
  obtain ⟨hsplit, hmember, hkey⟩ := parse_eq_ok hparse
  have hfree : (undecorate name.toList).any isSpecial = false := by
    rw [← lead_append_splitName (undecorate name.toList), hsplit, List.any_append,
      ← Scope.hasSpecial_eq_any_lead, hname.1, hname.2]
    rfl
  refine ⟨_, ⟨name, compile_of_name hsplit hmember hfree⟩, fun t => ?_⟩
  rw [hkey]
  exact covers_iff_of_named rfl t

end Symbol

end CallPolicy
