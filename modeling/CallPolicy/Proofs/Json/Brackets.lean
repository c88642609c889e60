import CallPolicy.Json.Token

namespace CallPolicy.Json

/-!
# Brackets in JSON texts

Where an object ends can be told from its brackets and quotes alone, whether or not what stands
between them is JSON. The tokens of such a text, if it has any, have their brackets in the same
places.

* `Brackets.step`, `Brackets.closes` — the brackets and strings that a text leaves open.
* `IsObjectText` — a text that ends where the bracket closes that it starts with.
* `LexState.run?_append` — a text is read part by part.
* `LexState.read?_of_closes` — a text that closes its brackets has tokens that do, and the next
  token starts behind it.
-/

/-! ### The brackets of a text -/

/-- What a text has left open: so many brackets, and maybe a string, with an escape or without. -/
structure Brackets where
  depth : Nat
  quoted : Bool
  escaped : Bool
  deriving DecidableEq, Repr

namespace Brackets

def none : Brackets := ⟨0, false, false⟩

/-- One more character. Within a string, brackets are characters like others. -/
def step (b : Brackets) (c : Char) : Brackets :=
  if b.quoted then
    if b.escaped then { b with escaped := false }
    else if c = '\\' then { b with escaped := true }
    else if c = '"' then { b with quoted := false }
    else b
  else if c = '"' then { b with quoted := true }
  else if c = '[' ∨ c = '{' then { b with depth := b.depth + 1 }
  else if c = ']' ∨ c = '}' then { b with depth := b.depth - 1 }
  else b

/-- The last open bracket is closed by the last character of the text, and by none before. -/
def closes (b : Brackets) : List Char → Bool
  | [] => false
  | c :: rest => if (b.step c).depth = 0 then rest.isEmpty else (b.step c).closes rest

end Brackets

/-- The text starts with a brace, and ends where this closes. -/
def IsObjectText (cs : List Char) : Prop :=
  cs.head? = some '{' ∧ Brackets.none.closes cs = true

instance (cs : List Char) : Decidable (IsObjectText cs) :=
  inferInstanceAs (Decidable (_ ∧ _))

/-! ### The brackets of tokens -/

/-- How many brackets are open after a token. -/
def Token.depthFrom (depth : Nat) : Token → Nat
  | openList | openTable => depth + 1
  | closeList | closeTable => depth - 1
  | comma | colon | scalar _ | text _ => depth

/-- The last of the brackets that are open is closed by the last token, and by none before. -/
def closesIn (depth : Nat) : List Token → Bool
  | [] => false
  | t :: rest => if t.depthFrom depth = 0 then rest.isEmpty else closesIn (t.depthFrom depth) rest

/-- Tokens that are no brackets do not matter while a bracket is open. -/
theorem closesIn_append_of_scalars {depth : Nat} (hdepth : depth ≠ 0) {scalars : List Token}
    (h : ∀ t ∈ scalars, ∃ d, t = .scalar d) (rest : List Token) :
    closesIn depth (scalars ++ rest) = closesIn depth rest := by
  induction scalars with
  | nil => rfl
  | cons t more ih =>
    rw [List.forall_mem_cons] at h
    obtain ⟨⟨d, rfl⟩, hmore⟩ := h
    rw [List.cons_append, closesIn]
    show (if depth = 0 then _ else closesIn depth (more ++ rest)) = _
    rw [if_neg hdepth, ih hmore]

namespace LexState

/-! ### Reading part by part -/

/-- The state after a text, and the tokens that it ends. -/
def read? (s : LexState) : List Char → Option (LexState × List Token)
  | [] => some (s, [])
  | c :: rest => do
    let (next, tokens) ← s.step? c
    let (last, more) ← next.read? rest
    some (last, tokens ++ more)

/-- A text is read part by part. -/
theorem run?_append (s : LexState) (xs ys : List Char) :
    s.run? (xs ++ ys) =
      s.read? xs >>= fun (next, tokens) => (next.run? ys).map (tokens ++ ·) := by
  induction xs generalizing s with
  | nil =>
    show s.run? ys = (s.run? ys).map fun tokens => tokens
    rw [Option.map_id']
  | cons c rest ih =>
    show (s.step? c >>= fun p => p.1.run? (rest ++ ys) >>= fun more => some (p.2 ++ more)) =
      (s.step? c >>= fun p => p.1.read? rest >>= fun q => some (q.1, p.2 ++ q.2)) >>= _
    cases s.step? c with
    | none => rfl
    | some p =>
      obtain ⟨next, tokens⟩ := p
      simp only [Option.bind_eq_bind, Option.bind_some, ih]
      cases next.read? rest with
      | none => rfl
      | some q =>
        obtain ⟨last, more⟩ := q
        simp only [Option.bind_some]
        cases last.run? ys with
        | none => rfl
        | some final => simp

/-! ### One character -/

def isString : LexState → Bool
  | string _ => true
  | _ => false

/-- An escape of one character is being read. -/
def isEscape : LexState → Bool
  | string str => decide (str.mode = .escape)
  | _ => false

end LexState

namespace Brackets

/-- The string that is open, if any, is the one that is being read. -/
structure Tracks (b : Brackets) (s : LexState) : Prop where
  quoted : b.quoted = s.isString
  escaped : b.escaped = s.isEscape

/-- The characters that are looked at outside of strings. -/
def marks : List Char := ['"', '[', '{', ']', '}']

/-- A character of a class that none of the marks is in is no mark. -/
theorem not_mem_marks {p : Char → Bool} (hp : marks.any p = false) {c : Char} (hc : p c = true) :
    c ∉ marks :=
  fun hmem => List.any_eq_false.1 hp c hmem hc

theorem step_of_not_mem {b : Brackets} (hquoted : b.quoted = false) {c : Char} (hc : c ∉ marks) :
    b.step c = b := by
  simp only [marks, List.mem_cons, List.not_mem_nil, or_false, not_or] at hc
  obtain ⟨hquote, hlist, htable, hlistEnd, htableEnd⟩ := hc
  unfold step
  rw [hquoted, if_neg Bool.false_ne_true, if_neg hquote, if_neg (not_or.2 ⟨hlist, htable⟩),
    if_neg (not_or.2 ⟨hlistEnd, htableEnd⟩)]

theorem step_escaped (depth : Nat) (c : Char) : step ⟨depth, true, true⟩ c = ⟨depth, true, false⟩ :=
  rfl

theorem step_quoted (depth : Nat) {c : Char} (hescape : c ≠ '\\') (hquote : c ≠ '"') :
    step ⟨depth, true, false⟩ c = ⟨depth, true, false⟩ := by
  unfold step
  rw [if_pos rfl, if_neg Bool.false_ne_true, if_neg hescape, if_neg hquote]

end Brackets

namespace Brackets

theorem depth_step_of_not_mem {b : Brackets} {c : Char} (hc : c ∉ marks) :
    (b.step c).depth = b.depth := by
  cases hquoted : b.quoted with
  | false => rw [step_of_not_mem hquoted hc]
  | true =>
    unfold step
    rw [hquoted, if_pos rfl]
    split
    · rfl
    · split
      · rfl
      · split <;> rfl

/-- A text that closes its brackets ends with one of them. -/
theorem getLast?_ne_of_closes {b : Brackets} (hdepth : b.depth ≠ 0) {cs : List Char}
    (h : b.closes cs = true) {c : Char} (hc : c ∉ marks) : cs.getLast? ≠ some c := by
  induction cs generalizing b with
  | nil => cases h
  | cons d rest ih =>
    rw [closes] at h
    split at h
    case isTrue hzero =>
      obtain rfl := List.isEmpty_iff.1 h
      intro hlast
      have hd : d = c := Option.some.inj hlast
      rw [hd, depth_step_of_not_mem hc] at hzero
      exact hdepth hzero
    case isFalse hopen =>
      have hrest := ih hopen h
      cases rest with
      | nil => cases h
      | cons e rest => rwa [List.getLast?_cons_cons]

end Brackets

theorem IsObjectText.getLast?_ne {cs : List Char} (h : IsObjectText cs) {c : Char}
    (hc : c ∉ Brackets.marks) : cs.getLast? ≠ some c := by
  obtain ⟨hhead, hcloses⟩ := h
  obtain ⟨rest, rfl⟩ := List.head?_eq_some_iff.1 hhead
  have hrest : Brackets.closes ⟨1, false, false⟩ rest = true := hcloses
  have hlast := Brackets.getLast?_ne_of_closes Nat.one_ne_zero hrest hc
  cases rest with
  | nil => cases hrest
  | cons d rest => rwa [List.getLast?_cons_cons]

namespace LexState

open Brackets

/-- A word or a number ends as one token. -/
theorem scalar_of_mem_flush? {s : LexState} {ended : List Token} (h : s.flush? = some ended) :
    ∀ t ∈ ended, ∃ d, t = .scalar d := by
  have hword : ∀ letters t, wordToken? letters = some t → ∃ d, t = .scalar d := by
    intro letters t ht
    unfold wordToken? at ht
    split at ht
    · exact ⟨_, (Option.some.inj ht).symm⟩
    · split at ht
      · exact ⟨_, (Option.some.inj ht).symm⟩
      · split at ht
        · exact ⟨_, (Option.some.inj ht).symm⟩
        · cases ht
  intro t ht
  cases s with
  | between =>
    cases h
    cases ht
  | word letters =>
    obtain ⟨token, htoken, rfl⟩ := Option.map_eq_some_iff.1 h
    rw [List.mem_singleton.1 ht]
    exact hword _ _ htoken
  | number chars =>
    obtain ⟨n, -, rfl⟩ := Option.map_eq_some_iff.1 h
    exact ⟨_, List.mem_singleton.1 ht⟩
  | string str => cases h

/-- What a character brings about, with the tokens that start with it: the open string is kept track
of, and there is the token of a bracket exactly where the text has a bracket. -/
structure Steps (b : Brackets) (c : Char) (s : LexState) (tokens : List Token) : Prop where
  tracks : (b.step c).Tracks s
  depth : (tokens = [] ∧ (b.step c).depth = b.depth) ∨
    ∃ t, tokens = [t] ∧ (b.step c).depth = t.depthFrom b.depth
  closed : (b.step c).depth < b.depth → s = between

theorem steps_start? {depth : Nat} {c : Char} {s : LexState} {tokens : List Token}
    (h : start? c = some (s, tokens)) : Steps ⟨depth, false, false⟩ c s tokens := by
  have hplain : ∀ {s : LexState} {tokens : List Token}, c ∉ marks → s.isString = false →
      s.isEscape = false → (tokens = [] ∨ ∃ t, tokens = [t] ∧ t.depthFrom depth = depth) →
      Steps ⟨depth, false, false⟩ c s tokens := by
    intro s tokens hc hstring hescape htokens
    have hstep : Brackets.step ⟨depth, false, false⟩ c = ⟨depth, false, false⟩ :=
      step_of_not_mem rfl hc
    refine ⟨?_, ?_, ?_⟩
    · rw [hstep]
      exact ⟨hstring.symm, hescape.symm⟩
    · rw [hstep]
      exact htokens.imp (fun hnil => ⟨hnil, rfl⟩) fun ⟨t, ht, hdepth⟩ => ⟨t, ht, hdepth.symm⟩
    · rw [hstep]
      exact fun hlt => absurd hlt (Nat.lt_irrefl depth)
  unfold start? at h
  by_cases hspace : isSpace c = true
  · rw [if_pos hspace] at h
    cases h
    exact hplain (not_mem_marks (by decide) hspace) rfl rfl (Or.inl rfl)
  rw [if_neg hspace] at h
  by_cases hc : c = '['
  · subst hc
    cases h
    exact ⟨⟨rfl, rfl⟩, Or.inr ⟨.openList, rfl, rfl⟩, fun _ => rfl⟩
  rw [if_neg hc] at h
  by_cases hc : c = ']'
  · subst hc
    cases h
    exact ⟨⟨rfl, rfl⟩, Or.inr ⟨.closeList, rfl, rfl⟩, fun _ => rfl⟩
  rw [if_neg hc] at h
  by_cases hc : c = '{'
  · subst hc
    cases h
    exact ⟨⟨rfl, rfl⟩, Or.inr ⟨.openTable, rfl, rfl⟩, fun _ => rfl⟩
  rw [if_neg hc] at h
  by_cases hc : c = '}'
  · subst hc
    cases h
    exact ⟨⟨rfl, rfl⟩, Or.inr ⟨.closeTable, rfl, rfl⟩, fun _ => rfl⟩
  rw [if_neg hc] at h
  by_cases hc : c = ','
  · subst hc
    cases h
    exact hplain (by decide) rfl rfl (Or.inr ⟨.comma, rfl, rfl⟩)
  rw [if_neg hc] at h
  by_cases hc : c = ':'
  · subst hc
    cases h
    exact hplain (by decide) rfl rfl (Or.inr ⟨.colon, rfl, rfl⟩)
  rw [if_neg hc] at h
  by_cases hc : c = '"'
  · subst hc
    cases h
    exact ⟨⟨rfl, rfl⟩, Or.inl ⟨rfl, rfl⟩, fun hlt => absurd hlt (Nat.lt_irrefl depth)⟩
  rw [if_neg hc] at h
  by_cases hnumber : (c = '-' || c.isDigit) = true
  · rw [if_pos hnumber] at h
    cases h
    have hmark : marks.any (fun c => c = '-' || c.isDigit) = false := by decide
    exact hplain (not_mem_marks hmark hnumber) rfl rfl (Or.inl rfl)
  rw [if_neg hnumber] at h
  by_cases hword : c.isAlpha = true
  · rw [if_pos hword] at h
    cases h
    exact hplain (not_mem_marks (by decide) hword) rfl rfl (Or.inl rfl)
  · rw [if_neg hword] at h
    cases h

theorem mode_pushUnit (str : StringState) (n : Nat) : (str.pushUnit n).mode = .plain := by
  unfold StringState.pushUnit
  split
  · split
    · rfl
    · rfl
  · split
    · rfl
    · split
      · rfl
      · rfl

/-- A string goes on after a character, at an escape exactly after a backslash that is none
itself. -/
theorem escaped_step_of_string {depth : Nat} {str next : StringState} {c : Char}
    (h : str.step? c = some next) (hend : ¬ (c = '"' ∧ str.mode = .plain)) :
    Brackets.step ⟨depth, true, decide (str.mode = .escape)⟩ c =
      ⟨depth, true, decide (next.mode = .escape)⟩ := by
  unfold StringState.step? at h
  cases hmode : str.mode with
  | plain =>
    rw [hmode] at h hend
    have hquote : c ≠ '"' := fun hc => hend ⟨hc, rfl⟩
    dsimp only at h
    split at h
    case isTrue hc =>
      cases h
      subst hc
      rfl
    case isFalse hc =>
      split at h
      case isTrue => cases h
      case isFalse =>
        cases h
        exact step_quoted depth hc hquote
  | escape =>
    rw [hmode] at h
    dsimp only at h
    have hnext : next.mode ≠ .escape := by
      split at h
      case isTrue =>
        cases h
        exact nofun
      case isFalse =>
        obtain ⟨d, -, rfl⟩ := Option.map_eq_some_iff.1 h
        exact nofun
    rw [decide_eq_false hnext]
    exact step_escaped depth c
  | hex left value =>
    rw [hmode] at h
    obtain ⟨d, hd, hnext⟩ := Option.map_eq_some_iff.1 h
    have hquote : c ≠ '"' := by
      rintro rfl
      cases hd
    have hescape : c ≠ '\\' := by
      rintro rfl
      cases hd
    have hmode' : next.mode ≠ .escape := by
      rw [← hnext]
      split
      · rw [mode_pushUnit]
        exact nofun
      · exact nofun
    rw [decide_eq_false hmode']
    exact step_quoted depth hescape hquote

/-- A character of a string leaves the brackets as they are. -/
theorem steps_string {b : Brackets} {str : StringState} (h : b.Tracks (string str)) {c : Char}
    {s : LexState} {tokens : List Token} (hstep : (string str).step? c = some (s, tokens)) :
    Steps b c s tokens := by
  obtain ⟨depth, quoted, escaped⟩ := b
  obtain ⟨hquoted, hescaped⟩ := h
  obtain rfl : quoted = true := hquoted
  obtain rfl : escaped = decide (str.mode = .escape) := hescaped
  unfold LexState.step? at hstep
  dsimp only at hstep
  split at hstep
  case isTrue hend =>
    cases hstep
    obtain ⟨rfl, hmode⟩ := hend
    rw [hmode]
    exact ⟨⟨rfl, rfl⟩, Or.inr ⟨_, rfl, rfl⟩, fun _ => rfl⟩
  case isFalse hend =>
    obtain ⟨next, hnext, heq⟩ := Option.map_eq_some_iff.1 hstep
    cases heq
    have hstep : Brackets.step ⟨depth, true, decide (str.mode = .escape)⟩ c =
        ⟨depth, true, decide (next.mode = .escape)⟩ := escaped_step_of_string hnext hend
    refine ⟨?_, Or.inl ⟨rfl, ?_⟩, fun hlt => ?_⟩
    · rw [hstep]
      exact ⟨rfl, rfl⟩
    · rw [hstep]
    · rw [hstep] at hlt
      exact absurd hlt (Nat.lt_irrefl depth)

/-- A character either goes on with a word or a number, or ends what was read and starts the next
token. -/
theorem step?_cases {s : LexState} (h : s.isString = false) (c : Char) :
    (∃ next, s.step? c = some (next, []) ∧ next.isString = false ∧ next.isEscape = false ∧
        c ∉ marks) ∨
      s.step? c = s.flush? >>= fun ended =>
        (start? c).map fun (next, tokens) => (next, ended ++ tokens) := by
  cases s with
  | between =>
    right
    show start? c = (start? c).map fun p => p
    rw [Option.map_id']
  | word letters =>
    unfold step?
    dsimp only
    split
    case isTrue hc => exact Or.inl ⟨_, rfl, rfl, rfl, not_mem_marks (by decide) hc⟩
    case isFalse => exact Or.inr (bind_congr fun ended => by cases start? c <;> rfl)
  | number chars =>
    unfold step?
    dsimp only
    split
    case isTrue hc => exact Or.inl ⟨_, rfl, rfl, rfl, not_mem_marks (by decide) hc⟩
    case isFalse => exact Or.inr (bind_congr fun ended => by cases start? c <;> rfl)
  | string str => cases h

/-- A character may end a word or a number before it brings its own token about. -/
theorem exists_steps {b : Brackets} {s next : LexState} (h : b.Tracks s) {c : Char}
    {tokens : List Token} (hstep : s.step? c = some (next, tokens)) :
    ∃ ended started, tokens = ended ++ started ∧ (∀ t ∈ ended, ∃ d, t = .scalar d) ∧
      Steps b c next started := by
  cases hstring : s.isString with
  | true =>
    cases s with
    | string str => exact ⟨[], tokens, rfl, nofun, steps_string h hstep⟩
    | between | word | number => cases hstring
  | false =>
    have hescape : s.isEscape = false := by
      cases s with
      | string str => cases hstring
      | between | word | number => rfl
    obtain ⟨depth, quoted, escaped⟩ := b
    obtain rfl : quoted = false := h.quoted.trans hstring
    obtain rfl : escaped = false := h.escaped.trans hescape
    rcases step?_cases hstring c with ⟨grown, hgrown, hstring', hescape', hc⟩ | hends
    · rw [hgrown] at hstep
      cases hstep
      have hplain : Brackets.step ⟨depth, false, false⟩ c = ⟨depth, false, false⟩ :=
        step_of_not_mem rfl hc
      refine ⟨[], [], rfl, nofun, ?_, Or.inl ⟨rfl, ?_⟩, fun hlt => ?_⟩
      · rw [hplain]
        exact ⟨hstring'.symm, hescape'.symm⟩
      · rw [hplain]
      · rw [hplain] at hlt
        exact absurd hlt (Nat.lt_irrefl depth)
    · rw [hends] at hstep
      obtain ⟨ended, hflush, hstart⟩ := Option.bind_eq_some_iff.1 hstep
      obtain ⟨⟨started, ts⟩, hstarted, heq⟩ := Option.map_eq_some_iff.1 hstart
      cases heq
      exact ⟨ended, ts, rfl, scalar_of_mem_flush? hflush, steps_start? hstarted⟩

/-! ### Texts that close their brackets -/

/-- A text that closes its brackets has tokens that do, and no token goes on behind it. -/
theorem read?_of_closes {b : Brackets} {s last : LexState} (htracks : b.Tracks s)
    (hdepth : b.depth ≠ 0) {cs : List Char} (hcloses : b.closes cs = true) {tokens : List Token}
    (hread : s.read? cs = some (last, tokens)) :
    last = between ∧ closesIn b.depth tokens = true := by
  induction cs generalizing b s tokens with
  | nil => cases hcloses
  | cons c rest ih =>
    obtain ⟨⟨next, first⟩, hstep, hrest⟩ := Option.bind_eq_some_iff.1 hread
    obtain ⟨⟨last', more⟩, hmore, heq⟩ := Option.bind_eq_some_iff.1 hrest
    cases heq
    obtain ⟨ended, started, rfl, hended, hsteps⟩ := exists_steps htracks hstep
    show last = between ∧ closesIn b.depth (ended ++ started ++ more) = true
    rw [List.append_assoc, closesIn_append_of_scalars hdepth hended]
    rw [Brackets.closes] at hcloses
    split at hcloses
    case isTrue hzero =>
      -- The last bracket closes, and with it the text ends.
      obtain rfl := List.isEmpty_iff.1 hcloses
      cases hmore
      rcases hsteps.depth with ⟨-, hsame⟩ | ⟨t, rfl, ht⟩
      · exact absurd (hsame.symm.trans hzero) hdepth
      · refine ⟨hsteps.closed (by omega), ?_⟩
        rw [List.singleton_append, closesIn, ← ht, if_pos hzero]
        rfl
    case isFalse hopen =>
      obtain ⟨hlast, hin⟩ := ih hsteps.tracks hopen hcloses hmore
      refine ⟨hlast, ?_⟩
      rcases hsteps.depth with ⟨rfl, hsame⟩ | ⟨t, rfl, ht⟩
      · rwa [List.nil_append, ← hsame]
      · rw [List.singleton_append, closesIn, ← ht, if_neg hopen]
        exact hin

/-- The tokens of an object start with its brace and close it last. -/
theorem exists_of_isObjectText {cs : List Char} (h : IsObjectText cs) {last : LexState}
    {tokens : List Token} (hread : between.read? cs = some (last, tokens)) :
    last = between ∧ ∃ inner, tokens = .openTable :: inner ∧ closesIn 1 inner = true := by
  obtain ⟨hhead, hcloses⟩ := h
  obtain ⟨rest, rfl⟩ := List.head?_eq_some_iff.1 hhead
  obtain ⟨⟨last', inner⟩, hmore, heq⟩ := Option.bind_eq_some_iff.1 hread
  cases heq
  have htracks : Brackets.Tracks ⟨1, false, false⟩ between := ⟨rfl, rfl⟩
  obtain ⟨hlast, hin⟩ := read?_of_closes htracks Nat.one_ne_zero hcloses hmore
  exact ⟨hlast, inner, rfl, hin⟩

end LexState

end CallPolicy.Json
