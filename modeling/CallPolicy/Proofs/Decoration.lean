import CallPolicy.Proofs.BareNames
import CallPolicy.Proofs.Outcome

namespace CallPolicy

open Text

/-!
# Decorated names

A name may be written with blanks and backslashes in front of it, and with blanks and a pair of
brackets behind it.

* `Decorated` — the texts that are a name with such decoration.
* `undecorate_eq_iff_decorated` — they are the texts that undecorating turns into the name, if the
  name is bare.
* `SymbolError.naming`, `PatternError.naming` — the same error about another text.
* `decorated_reads_as_core` — a decorated name is read as the name itself, be it as a symbol or as a
  pattern.
-/

/-- The text is `core` with blanks and then backslashes in front of it, and behind it blanks, or a
pair of brackets with blanks around it. -/
inductive Decorated (core : List Char) : List Char → Prop
  | plain {front back : List Char} (slashes : Nat) (hfront : ∀ c ∈ front, isBlank c = true)
    (hback : ∀ c ∈ back, isBlank c = true) :
    Decorated core (front ++ (List.replicate slashes '\\' ++ core) ++ back)
  | called {front inner back : List Char} (slashes : Nat) (hfront : ∀ c ∈ front, isBlank c = true)
    (hinner : ∀ c ∈ inner, isBlank c = true) (hback : ∀ c ∈ back, isBlank c = true) :
    Decorated core (front ++ (List.replicate slashes '\\' ++ core ++ inner ++ ['(', ')']) ++ back)

/-! ### Taking decoration off -/

section

variable {blanks : List Char} (h : ∀ c ∈ blanks, isBlank c = true)

include h

theorem trimEnd_append_blanks (cs : List Char) : trimEnd (cs ++ blanks) = trimEnd cs := by
  unfold trimEnd dropTrailing
  rw [List.reverse_append, List.dropWhile_append_of_pos fun c hc => h c (List.mem_reverse.1 hc)]

theorem trimStart_blanks : trimStart blanks = [] :=
  List.dropWhile_eq_nil_iff.2 h

theorem trimStart_blanks_append (cs : List Char) : trimStart (blanks ++ cs) = trimStart cs :=
  List.dropWhile_append_of_pos h

theorem undecorate_blanks_append (cs : List Char) : undecorate (blanks ++ cs) = undecorate cs := by
  unfold undecorate trim
  rw [trimStart_blanks_append h]

theorem undecorate_append_blanks (cs : List Char) : undecorate (cs ++ blanks) = undecorate cs := by
  have htrim : trim (cs ++ blanks) = trim cs := by
    unfold trim
    cases hcs : trimStart cs with
    | nil =>
      -- Nothing but blanks: those at the end are reached from the front.
      have hall : ∀ c ∈ cs, isBlank c = true := List.dropWhile_eq_nil_iff.1 hcs
      rw [trimStart_blanks_append hall, trimStart_blanks h]
    | cons c rest =>
      have hstart : trimStart (cs ++ blanks) = c :: rest ++ blanks := by
        unfold trimStart at hcs ⊢
        rw [List.dropWhile_append, hcs]
        rfl
      rw [hstart, trimEnd_append_blanks h]
  unfold undecorate
  rw [htrim]

end

/-- A character that is not blank protects what stands in front of it. -/
theorem trimEnd_append_cons {c : Char} (h : isBlank c = false) (xs ys : List Char) :
    trimEnd (xs ++ c :: ys) = xs ++ c :: trimEnd ys := by
  unfold trimEnd dropTrailing
  rw [List.reverse_append, List.reverse_cons, List.append_assoc, List.singleton_append,
    dropWhile_append_cons h]
  simp

theorem dropWhile_slashes_append (slashes : Nat) (cs : List Char) :
    (List.replicate slashes '\\' ++ cs).dropWhile (· == '\\') = cs.dropWhile (· == '\\') := by
  refine List.dropWhile_append_of_pos fun c hc => ?_
  rw [List.eq_of_mem_replicate hc]
  rfl

theorem undecorate_slashes_append {cs : List Char} (h : cs.head?.any isBlank = false)
    (slashes : Nat) : undecorate (List.replicate slashes '\\' ++ cs) = undecorate cs := by
  cases slashes with
  | zero => rfl
  | succ n =>
    have hstart : trimStart (List.replicate (n + 1) '\\' ++ cs) =
        List.replicate (n + 1) '\\' ++ cs := dropWhile_eq_self_iff.2 rfl
    have hend : trimEnd (List.replicate (n + 1) '\\' ++ cs) =
        List.replicate (n + 1) '\\' ++ trimEnd cs := by
      rw [List.replicate_succ', List.append_assoc, List.append_assoc]
      exact trimEnd_append_cons rfl _ _
    have hcs : trimStart cs = cs := dropWhile_eq_self_iff.2 h
    unfold undecorate trim
    rw [hstart, hend, dropWhile_slashes_append, hcs]

namespace IsBare

variable {core : List Char} (hcore : IsBare core)

include hcore

/-- Blanks between a bare name and its brackets are taken off with them. -/
theorem undecorate_inner_brackets {inner : List Char} (hinner : ∀ c ∈ inner, isBlank c = true)
    (slashes : Nat) :
    undecorate (List.replicate slashes '\\' ++ core ++ inner ++ ['(', ')']) = core := by
  have hend : trimEnd (core ++ inner) = core := by
    rw [trimEnd_append_blanks hinner]
    exact dropTrailing_eq_self_iff.2 hcore.last
  have hslash : (core ++ inner).head?.any (· == '\\') = false := by
    cases hcases : core with
    | cons c rest =>
      have hhead := hcore.head?_any_slash
      rwa [hcases] at hhead
    | nil =>
      cases inner with
      | nil => rfl
      | cons c rest =>
        -- A blank is no backslash.
        have hblank := hinner c List.mem_cons_self
        rw [List.nil_append, List.head?_cons, Option.any_some, beq_eq_false_iff_ne]
        rintro rfl
        cases hblank
  rw [undecorate_called]
  by_cases hnil : List.replicate slashes '\\' ++ core = []
  · -- All that stands in front of the brackets is blank.
    rw [hnil, List.nil_append, trimStart_blanks hinner, (List.append_eq_nil_iff.1 hnil).2]
    rfl
  · have hhead : (List.replicate slashes '\\' ++ core).head?.any isBlank = false := by
      cases slashes with
      | zero => exact hcore.head?_any_isBlank
      | succ n => rfl
    have hstart : trimStart (List.replicate slashes '\\' ++ core ++ inner) =
        List.replicate slashes '\\' ++ core ++ inner := by
      refine dropWhile_eq_self_iff.2 ?_
      rwa [List.head?_append_of_ne_nil _ hnil]
    rw [hstart, List.append_assoc, dropWhile_slashes_append, dropWhile_eq_self_iff.2 hslash, hend]

theorem undecorate_of_decorated {cs : List Char} (h : Decorated core cs) :
    undecorate cs = core := by
  cases h with
  | plain slashes hfront hback =>
    rw [List.append_assoc, undecorate_blanks_append hfront, undecorate_append_blanks hback,
      undecorate_slashes_append hcore.head?_any_isBlank, undecorate_of_isBare hcore]
  | called slashes hfront hinner hback =>
    rw [List.append_assoc, undecorate_blanks_append hfront, undecorate_append_blanks hback,
      hcore.undecorate_inner_brackets hinner]

end IsBare

/-! ### Nothing but decoration is taken off -/

theorem exists_eq_trimEnd_append (cs : List Char) :
    ∃ blanks, (∀ c ∈ blanks, isBlank c = true) ∧ cs = trimEnd cs ++ blanks := by
  refine ⟨(cs.reverse.takeWhile isBlank).reverse, fun c hc => ?_, ?_⟩
  · exact List.mem_takeWhile_imp (List.mem_reverse.1 hc)
  · unfold trimEnd dropTrailing
    rw [← List.reverse_append, List.takeWhile_append_dropWhile, List.reverse_reverse]

theorem takeWhile_slash_eq_replicate (cs : List Char) :
    cs.takeWhile (· == '\\') = List.replicate (cs.takeWhile (· == '\\')).length '\\' := by
  refine List.eq_replicate_of_mem fun c hc => ?_
  have hslash : (c == '\\') = true := List.mem_takeWhile_imp (p := (· == '\\')) hc
  exact beq_iff_eq.1 hslash

/-- Every text is what undecorating makes of it, with decoration. -/
theorem decorated_undecorate (cs : List Char) : Decorated (undecorate cs) cs := by
  obtain ⟨back, hback, hend⟩ := exists_eq_trimEnd_append (trimStart cs)
  have hfront : ∀ c ∈ cs.takeWhile isBlank, isBlank c = true := fun _ hc =>
    List.mem_takeWhile_imp hc
  have hcs : cs = cs.takeWhile isBlank ++ (trim cs ++ back) := by
    rw [trim, ← hend, trimStart, List.takeWhile_append_dropWhile]
  have hslashes : trim cs = List.replicate ((trim cs).takeWhile (· == '\\')).length '\\' ++
      (trim cs).dropWhile (· == '\\') := by
    rw [← takeWhile_slash_eq_replicate, List.takeWhile_append_dropWhile]
  generalize (trim cs).takeWhile (· == '\\') = before at hslashes
  unfold undecorate
  dsimp only
  generalize (trim cs).dropWhile (· == '\\') = bare at hslashes ⊢
  -- What is left ends in brackets or it does not; blanks are taken off at the end in both cases.
  by_cases hbrackets : ['(', ')'] <:+ bare
  · obtain ⟨name, rfl⟩ := hbrackets
    obtain ⟨inner, hinner, hname⟩ := exists_eq_trimEnd_append name
    have hcalled : Decorated (trimEnd name) _ :=
      .called before.length hfront hinner hback
    rw [List.append_assoc _ _ inner, ← hname, List.append_assoc _ name, ← hslashes,
      List.append_assoc, ← hcs] at hcalled
    rwa [stripEnd?_append, Option.getD_some]
  · obtain ⟨inner, hinner, hname⟩ := exists_eq_trimEnd_append bare
    have hplain : Decorated (trimEnd bare) _ :=
      .plain before.length hfront (List.forall_mem_append.2 ⟨hinner, hback⟩)
    rw [List.append_assoc, ← List.append_assoc _ inner, List.append_assoc _ _ inner, ← hname,
      ← hslashes, ← hcs] at hplain
    rwa [stripEnd?_eq_none hbrackets, Option.getD_none]

/-- Undecorating gives a bare name exactly for its decorated forms. -/
theorem undecorate_eq_iff_decorated {core cs : List Char} (hcore : IsBare core) :
    undecorate cs = core ↔ Decorated core cs := by
  constructor
  · rintro rfl
    exact decorated_undecorate cs
  · exact hcore.undecorate_of_decorated

/-! ### Readings of one undecorated name -/

/-- The same error about another name. -/
def SymbolError.naming (name : String) : SymbolError → SymbolError
  | empty => empty
  | emptyMember _ => emptyMember name

/-- The same error about another pattern. -/
def PatternError.naming (pattern : String) : PatternError → PatternError
  | empty => empty
  | emptyMember _ => emptyMember pattern
  | wildcardInQualifier _ => wildcardInQualifier pattern
  | wildcardNotTrailing _ => wildcardNotTrailing pattern
  | multipleWildcards _ => multipleWildcards pattern
  | unsupportedMetacharacter _ => unsupportedMetacharacter pattern

theorem SymbolPattern.symbolsOf_naming (text core : String) (bare : List Char) (scope : Scope)
    (member : List Char) :
    SameOutcome (fun e e' : PatternError => e = e'.naming text) Eq
      (symbolsOf text bare scope member) (symbolsOf core bare scope member) := by
  unfold symbolsOf
  split
  · exact .ok rfl
  · split
    · exact .ok rfl
    · exact .error rfl
  · exact .error rfl

section

variable {text core : String} (h : undecorate text.toList = undecorate core.toList)

include h

theorem Symbol.parse_of_undecorate_eq (kind : SymbolKind) :
    SameOutcome (fun e e' : SymbolError => e = e'.naming text) Eq (parse text kind)
      (parse core kind) := by
  unfold parse
  dsimp only
  rw [h]
  exact .stop_if rfl (.stop_if rfl (.ok rfl))

theorem SymbolPattern.compile_of_undecorate_eq :
    SameOutcome (fun e e' : PatternError => e = e'.naming text) Eq (compile text)
      (compile core) := by
  unfold compile
  dsimp only
  rw [h]
  refine .stop_if rfl (.stop_if rfl (.stop_if rfl (.stop_if rfl ?_)))
  exact (symbolsOf_naming text core _ _ _).map fun _ _ hsymbols => by rw [hsymbols]

end

/-- **Decoration does not matter.** A decorated form of a bare name is read as the name itself: as a
symbol of any kind, and as a pattern, both give the same or are refused with the same error, each
about the text it was given. -/
theorem decorated_reads_as_core {text core : String} (hcore : IsBare core.toList)
    (h : Decorated core.toList text.toList) :
    (∀ kind : SymbolKind, SameOutcome (fun e e' : SymbolError => e = e'.naming text) Eq
      (Symbol.parse text kind) (Symbol.parse core kind)) ∧
    SameOutcome (fun e e' : PatternError => e = e'.naming text) Eq
      (SymbolPattern.compile text) (SymbolPattern.compile core) := by
  have hsame : undecorate text.toList = undecorate core.toList := by
    rw [(undecorate_eq_iff_decorated hcore).2 h, undecorate_of_isBare hcore]
  exact ⟨Symbol.parse_of_undecorate_eq hsame, SymbolPattern.compile_of_undecorate_eq hsame⟩

/-- The method `q(x*` of the class `My Foo()\Σ`. -/
def oddMethod : Symbol where
  kind := .instanceMethod
  scope := .inClass "My Foo()\\Σ"
  member := "q(x*"
  key := "my foo()\\σ::q(x*"

/-- The methods of the class `My Foo()\Σ` that start with `q(x`. -/
def oddPattern : SymbolPattern where
  text := "My Foo()\\Σ::q(x*"
  symbols := .members (.inClass "my foo()\\σ") "q(x"

/-- Brackets, backslashes and blanks inside a name are none of its decoration. -/
theorem decorated_reads_as_core_oddMethod :
    IsBare "My Foo()\\Σ::q(x*".toList ∧
    Decorated "My Foo()\\Σ::q(x*".toList "\t\u00a0\\\\My Foo()\\Σ::q(x* () ".toList ∧
    Symbol.parse "\t\u00a0\\\\My Foo()\\Σ::q(x* () " .instanceMethod = .ok oddMethod ∧
    SymbolPattern.compile "\t\u00a0\\\\My Foo()\\Σ::q(x* () " = .ok oddPattern := by
  have hcore : IsBare "My Foo()\\Σ::q(x*".toList :=
    ⟨by decide +kernel, by decide +kernel, by decide +kernel⟩
  have hspace : ∀ c ∈ [' '], isBlank c = true := List.forall_mem_singleton.2 rfl
  have hfront : ∀ c ∈ ['\t', '\u00a0'], isBlank c = true :=
    List.forall_mem_cons.2 ⟨rfl, List.forall_mem_singleton.2 rfl⟩
  have hdecorated : Decorated "My Foo()\\Σ::q(x*".toList
      "\t\u00a0\\\\My Foo()\\Σ::q(x* () ".toList := .called 2 hfront hspace hspace
  have hparse : Symbol.parse "My Foo()\\Σ::q(x*" .instanceMethod = .ok oddMethod := by
    decide +kernel
  have hcompile : SymbolPattern.compile "My Foo()\\Σ::q(x*" = .ok oddPattern := by decide +kernel
  obtain ⟨hsymbols, hpatterns⟩ := decorated_reads_as_core hcore hdecorated
  have hsymbol := hsymbols .instanceMethod
  rw [hparse] at hsymbol
  rw [hcompile] at hpatterns
  refine ⟨hcore, hdecorated, ?_, ?_⟩
  · generalize Symbol.parse _ _ = outcome at hsymbol ⊢
    cases hsymbol with
    | ok h => rw [h]
  · generalize SymbolPattern.compile _ = outcome at hpatterns ⊢
    cases hpatterns with
    | ok h => rw [h]

end CallPolicy
