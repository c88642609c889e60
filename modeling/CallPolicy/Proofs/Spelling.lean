import CallPolicy.Proofs.Text.Lower
import CallPolicy.Symbol.Pattern

namespace CallPolicy

open Text

/-!
# The spelling of names

* `undecorate_of_wildcard` — a leading `\` and a final `*` let a pattern spell any name.
* `lead_append_splitName` — `splitName` loses nothing.
* `splitName_lower` — names are taken apart alike before and after lower-casing, unless a capital
  sigma stands in the name of a method.
-/

/-! ### Decoration -/

theorem trimEnd_concat {cs : List Char} {c : Char} (h : isBlank c = false) :
    trimEnd (cs ++ [c]) = cs ++ [c] := by
  simp [trimEnd, dropTrailing, h]

theorem trimEnd_isPrefix (cs : List Char) : trimEnd cs <+: cs := by
  rw [trimEnd, dropTrailing, ← List.reverse_suffix, List.reverse_reverse]
  exact List.dropWhile_suffix _

theorem undecorate_isPrefix (cs : List Char) :
    undecorate cs <+: (trim cs).dropWhile (· == '\\') := by
  unfold undecorate
  refine (trimEnd_isPrefix _).trans ?_
  unfold stripEnd?
  split
  · exact List.take_prefix _ _
  · exact List.prefix_refl _

theorem undecorate_isInfix (cs : List Char) : undecorate cs <:+: cs :=
  calc undecorate cs
    _ <:+: (trim cs).dropWhile (· == '\\') := (undecorate_isPrefix cs).isInfix
    _ <:+: trim cs := (List.dropWhile_suffix _).isInfix
    _ <:+: trimStart cs := (trimEnd_isPrefix _).isInfix
    _ <:+: cs := (List.dropWhile_suffix _).isInfix

/-- No `\` is left at the start of a name. -/
theorem head?_undecorate_ne (cs : List Char) : (undecorate cs).head? ≠ some '\\' := by
  intro h
  have hprefix := undecorate_isPrefix cs
  -- What is left starts where the leading backslashes ended.
  obtain ⟨c, rest, hc⟩ : ∃ c rest, undecorate cs = c :: rest := by
    cases hcs : undecorate cs with
    | nil => simp [hcs] at h
    | cons c rest => exact ⟨c, rest, rfl⟩
  have hhead := List.head?_dropWhile_not (· == '\\') (trim cs)
  obtain ⟨tail, htail⟩ := hprefix
  rw [hc] at h htail
  rw [← htail] at hhead
  simp at h hhead
  exact hhead h

/-- A leading `\` protects the blanks behind it, and a final `*` the end. -/
theorem undecorate_of_wildcard {cs : List Char} (h : cs.head? ≠ some '\\') :
    undecorate ('\\' :: cs ++ ['*']) = cs ++ ['*'] := by
  have hblank : isBlank '*' = false := rfl
  have htrim : trim ('\\' :: cs ++ ['*']) = '\\' :: cs ++ ['*'] := by
    rw [trim, trimStart, List.cons_append, List.dropWhile_cons_of_neg (by decide),
      ← List.cons_append, trimEnd_concat hblank]
  have hdrop : ('\\' :: cs ++ ['*']).dropWhile (· == '\\') = cs ++ ['*'] := by
    rw [List.cons_append, List.dropWhile_cons_of_pos rfl]
    cases cs with
    | nil => rfl
    | cons c rest =>
      have hc : (c == '\\') = false := by simpa using h
      rw [List.cons_append, List.dropWhile_cons_of_neg (by simp [hc])]
  have hstrip : stripEnd? ['(', ')'] (cs ++ ['*']) = none := by
    rw [stripEnd?, if_neg]
    rw [List.isSuffixOf_iff_suffix]
    rintro ⟨front, hfront⟩
    have hlast := congrArg List.getLast? hfront
    simp at hlast
  rw [undecorate, htrim, hdrop, hstrip, Option.getD_none, trimEnd_concat hblank]

/-! ### Names taken apart -/

/-- A scope is told by its name and by what kind of name that is. -/
theorem Scope.eq_of_qualifier? {scope scope' : Scope} (hclass : scope.isClass = scope'.isClass)
    (hqualifier : scope.qualifier? = scope'.qualifier?) : scope = scope' := by
  cases scope <;> cases scope' <;> simp_all [isClass, qualifier?]

/-- The text of a scope in front of a member. -/
def Scope.lead : Scope → List Char
  | .global => []
  | .inNamespace name => name.toList ++ ['\\']
  | .inClass name => name.toList ++ [':', ':']

section

variable {cs before member : List Char}

theorem splitName_of_class (h : splitLast? [':', ':'] cs = some (before, member)) :
    splitName cs = (.inClass (String.ofList before), member) := by
  rw [splitName, h]

theorem splitName_of_namespace (hnone : splitLast? [':', ':'] cs = none)
    (h : splitLast? ['\\'] cs = some (before, member)) :
    splitName cs = (.inNamespace (String.ofList before), member) := by
  rw [splitName, hnone, h]

theorem splitName_of_global (hnone : splitLast? [':', ':'] cs = none) (h : '\\' ∉ cs) :
    splitName cs = (.global, cs) := by
  rw [splitName, hnone, splitLast?_singleton_eq_none_iff.2 h]

/-- The ways in which a name is taken apart. -/
theorem splitName_cases (cs : List Char) :
    (∃ cls member, splitLast? [':', ':'] cs = some (cls, member)) ∨
    (splitLast? [':', ':'] cs = none ∧ ∃ space member,
      splitLast? ['\\'] cs = some (space, member)) ∨
    (splitLast? [':', ':'] cs = none ∧ '\\' ∉ cs) := by
  cases hcls : splitLast? [':', ':'] cs with
  | some cut => exact Or.inl ⟨cut.1, cut.2, rfl⟩
  | none =>
    cases hspace : splitLast? ['\\'] cs with
    | some cut => exact Or.inr (Or.inl ⟨rfl, cut.1, cut.2, rfl⟩)
    | none => exact Or.inr (Or.inr ⟨rfl, splitLast?_singleton_eq_none_iff.1 hspace⟩)

end

theorem lead_append_splitName (cs : List Char) :
    (splitName cs).1.lead ++ (splitName cs).2 = cs := by
  rcases splitName_cases cs with ⟨cls, member, hcut⟩ | ⟨hnone, space, member, hcut⟩ |
    ⟨hnone, hspace⟩
  · rw [splitName_of_class hcut, eq_append_of_splitLast? hcut]
    simp [Scope.lead]
  · rw [splitName_of_namespace hnone hcut, eq_append_of_splitLast? hcut]
    simp [Scope.lead]
  · rw [splitName_of_global hnone hspace]
    rfl

theorem isEmpty_of_splitName {cs member : List Char} {scope : Scope}
    (hsplit : splitName cs = (scope, member)) (hmember : member ≠ []) : cs.isEmpty = false := by
  rw [List.isEmpty_eq_false_iff, ← lead_append_splitName cs, hsplit]
  exact fun h => hmember (List.append_eq_nil_iff.1 h).2

/-- A shorter member with a final `*` has the same scope. -/
theorem splitName_wildcard {cs stem tail : List Char} {scope : Scope}
    (h : splitName cs = (scope, stem ++ tail)) :
    splitName (scope.lead ++ stem ++ ['*']) = (scope, stem ++ ['*']) := by
  have hcs : scope.lead ++ (stem ++ tail) = cs := by
    rw [← lead_append_splitName cs, h]
  -- A text without `::` or `\` has none when it is cut short, or when `*` is added.
  have hcolons : '*' ∉ [':', ':'] := by simp
  have hshort : splitLast? [':', ':'] cs = none →
      splitLast? [':', ':'] (scope.lead ++ stem ++ ['*']) = none := by
    intro hnone
    refine splitLast?_concat_eq_none (splitLast?_eq_none_of_part hnone ?_) hcolons
    exact ⟨[], tail, by simp [← hcs]⟩
  rcases splitName_cases cs with ⟨cls, member, hcut⟩ | ⟨hnone, space, member, hcut⟩ |
    ⟨hnone, hspace⟩
  -- The cut stays the last one: behind its first `:` there is no `::`, nor is one made by `*`.
  · rw [splitName_of_class hcut] at h
    obtain ⟨rfl, rfl⟩ := Prod.mk.inj h
    have hbehind := (splitLast?_eq_some_iff.1 hcut).2
    have hstem : splitLast? [':', ':'] ([':'] ++ stem ++ ['*']) = none := by
      refine splitLast?_concat_eq_none (splitLast?_eq_none_of_part hbehind ?_) hcolons
      exact ⟨[], tail, by simp⟩
    rw [List.append_assoc] at hstem
    have hcut' := splitLast?_append cls hstem
    rw [← splitName_of_class hcut']
    simp [Scope.lead]
  · rw [splitName_of_namespace hnone hcut] at h
    obtain ⟨rfl, rfl⟩ := Prod.mk.inj h
    have hbehind := splitLast?_singleton_eq_none_iff.1 (splitLast?_eq_some_iff.1 hcut).2
    have hstem : splitLast? ['\\'] ([] ++ (stem ++ ['*'])) = none :=
      splitLast?_singleton_eq_none_iff.2 (by simp_all)
    have hcut' := splitLast?_append space hstem
    have htext : space ++ ['\\'] ++ (stem ++ ['*']) =
        (Scope.inNamespace (String.ofList space)).lead ++ stem ++ ['*'] := by simp [Scope.lead]
    rw [htext] at hcut'
    exact splitName_of_namespace (hshort hnone) hcut'
  · rw [splitName_of_global hnone hspace] at h
    obtain ⟨rfl, rfl⟩ := Prod.mk.inj h
    refine splitName_of_global (hshort hnone) ?_
    simpa [Scope.lead] using fun hmem => hspace (List.mem_append_left _ hmem)

/-- Names are taken apart alike before and after lower-casing, unless a capital sigma stands in
the name of a method. -/
theorem splitName_lower {cs : List Char} (h : (splitName cs).1.isClass = true → 'Σ' ∉ cs) :
    splitName (lower cs) = ((splitName cs).1.lower, lower (splitName cs).2) := by
  have hcolons : ∀ c ∈ [':', ':'], isMark c = true := by
    simp only [List.forall_mem_cons]
    exact ⟨rfl, rfl, nofun⟩
  have hlowerNone : splitLast? [':', ':'] cs = none → splitLast? [':', ':'] (lower cs) = none :=
    (splitLast?_lowerAfter_eq_none_iff hcolons [] cs).2
  rcases splitName_cases cs with ⟨cls, member, hcut⟩ | ⟨hnone, space, member, hcut⟩ |
    ⟨hnone, hspace⟩
  -- `::` does not end words, so a sigma before it may take another form once the name is cut.
  · rw [splitName_of_class hcut] at h ⊢
    obtain ⟨hcs, hbehind⟩ := splitLast?_eq_some_iff.1 hcut
    have hsigma : 'Σ' ∉ cls ++ [':', ':'] ++ member := hcs ▸ h rfl
    have hlower : lower cs = lower cls ++ [':', ':'] ++ lower member := by
      have hfront : 'Σ' ∉ cls ++ [':', ':'] := fun hmem => hsigma (List.mem_append_left _ hmem)
      rw [hcs, lower_append_of_sigma_not_mem hsigma, lower_append_of_sigma_not_mem hfront]
      rfl
    have hlowerBehind : splitLast? [':', ':'] ([':'] ++ lower member) = none := by
      rw [List.singleton_append, ← lower_cons_ignorable rfl rfl]
      exact (splitLast?_lowerAfter_eq_none_iff hcolons [] _).2 hbehind
    rw [hlower, splitName_of_class (splitLast?_append _ hlowerBehind)]
    simp [Scope.lower]
  -- A backslash ends words, so the texts around it do not see each other.
  · obtain ⟨hcs, hbehind⟩ := splitLast?_eq_some_iff.1 hcut
    have hmark : '\\' ∉ lower member :=
      fun hmem => splitLast?_singleton_eq_none_iff.1 hbehind ((mem_lowerAfter_iff rfl [] _).1 hmem)
    have hlower : lower cs = lower space ++ ['\\'] ++ lower member := by
      rw [hcs, List.append_assoc, List.singleton_append, lower_append_break rfl rfl]
      simp
    have hcut' : splitLast? ['\\'] (lower cs) = some (lower space, lower member) := by
      rw [hlower]
      exact splitLast?_append _ (splitLast?_singleton_eq_none_iff.2 hmark)
    rw [splitName_of_namespace (hlowerNone hnone) hcut', splitName_of_namespace hnone hcut]
    simp [Scope.lower]
  · have hmark : '\\' ∉ lower cs := fun hmem => hspace ((mem_lowerAfter_iff rfl [] cs).1 hmem)
    rw [splitName_of_global (hlowerNone hnone) hmark, splitName_of_global hnone hspace]
    rfl

end CallPolicy
