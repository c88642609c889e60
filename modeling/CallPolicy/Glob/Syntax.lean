namespace CallPolicy.Glob

/-!
# The syntax of globs

A glob is a text in which `?` stands for a character, `*` for characters of one path segment,
`[…]` and `[!…]` for a character in or outside a class, and `**`, as a whole segment, for any
number of segments.

* `Token` — what a glob is made of.
* `parse` — the tokens of a text, or where and why it is malformed.
* `escape` — the glob of one given text.
-/

/-- The characters from `first` to `last`, both included. -/
structure CharRange where
  first : Char
  last : Char
  deriving DecidableEq, Repr

def CharRange.contains (range : CharRange) (c : Char) : Bool :=
  range.first ≤ c && c ≤ range.last

inductive Token where
  | literal (c : Char)
  | anyChar
  | oneOf (ranges : List CharRange)
  | noneOf (ranges : List CharRange)
  /-- Any characters of one segment. -/
  | anyRun
  /-- Any number of whole segments. -/
  | anySegments
  deriving DecidableEq, Repr

/-! ### Errors -/

inductive Reason where
  | tooManyStars
  | recursiveInsideSegment
  | unclosedClass
  deriving DecidableEq, Repr

/-- What is wrong with a glob, and near which character, counted from 0. -/
structure SyntaxError where
  position : Nat
  reason : Reason
  deriving DecidableEq, Repr

def Reason.message : Reason → String
  | tooManyStars => "wildcards are either regular `*` or recursive `**`"
  | recursiveInsideSegment => "recursive wildcards must form a single path component"
  | unclosedClass => "invalid range pattern"

def SyntaxError.message (e : SyntaxError) : String :=
  s!"Pattern syntax error near position {e.position}: {e.reason.message}"

/-! ### Character classes -/

/-- The ranges of a class: `a-z` is a range, all else a single character. -/
def rangesOf : List Char → List CharRange
  | a :: '-' :: z :: rest => ⟨a, z⟩ :: rangesOf rest
  | c :: rest => ⟨c, c⟩ :: rangesOf rest
  | [] => []

/-- The text before and after the first `]`. -/
def closeClass? : List Char → Option (List Char × List Char)
  | [] => none
  | c :: rest =>
    if c = ']' then some ([], rest)
    else (closeClass? rest).map fun (body, rest) => (c :: body, rest)

/-- The class that the text after a `[` starts with, and the text after its `]`. The first
character of a class is a member even where it is a `]`. -/
def readClass? : List Char → Option (Token × List Char)
  | '!' :: c :: rest =>
    (closeClass? rest).map fun (body, rest) => (.noneOf (rangesOf (c :: body)), rest)
  | c :: rest => (closeClass? rest).map fun (body, rest) => (.oneOf (rangesOf (c :: body)), rest)
  | [] => none

theorem length_of_closeClass? {cs body rest : List Char} (h : closeClass? cs = some (body, rest)) :
    rest.length < cs.length := by
  induction cs generalizing body with
  | nil => simp [closeClass?] at h
  | cons c cs ih =>
    unfold closeClass? at h
    split at h
    · simp at h; simp [h.2]
    · obtain ⟨⟨b, r⟩, hb, he⟩ := Option.map_eq_some_iff.1 h
      simp only [Prod.mk.injEq] at he
      have := ih (he.2 ▸ hb)
      simp; omega

theorem length_of_readClass? {cs rest : List Char} {t : Token}
    (h : readClass? cs = some (t, rest)) : rest.length < cs.length := by
  unfold readClass? at h
  split at h
  · obtain ⟨⟨b, r⟩, hb, he⟩ := Option.map_eq_some_iff.1 h
    simp only [Prod.mk.injEq] at he
    have := length_of_closeClass? (he.2 ▸ hb)
    simp; omega
  · obtain ⟨⟨b, r⟩, hb, he⟩ := Option.map_eq_some_iff.1 h
    simp only [Prod.mk.injEq] at he
    have := length_of_closeClass? (he.2 ▸ hb)
    simp; omega
  · simp at h

/-! ### Texts -/

/-- The tokens of a text that stands at `position`, after the character `before`. -/
def tokensAt (position : Nat) (before : Option Char) (cs : List Char) :
    Except SyntaxError (List Token) :=
  match cs with
  | [] => .ok []
  | '?' :: rest => (.anyChar :: ·) <$> tokensAt (position + 1) (some '?') rest
  | '*' :: '*' :: '*' :: _ => .error ⟨position + 2, .tooManyStars⟩
  | '*' :: '*' :: rest =>
    if before.all (· == '/') then
      match rest with
      | [] => .ok [.anySegments]
      | '/' :: rest => (.anySegments :: ·) <$> tokensAt (position + 3) (some '/') rest
      | _ :: _ => .error ⟨position + 2, .recursiveInsideSegment⟩
    else .error ⟨position - 1, .recursiveInsideSegment⟩
  | '*' :: rest => (.anyRun :: ·) <$> tokensAt (position + 1) (some '*') rest
  | '[' :: rest =>
    match h : readClass? rest with
    | some (token, after) =>
      have := length_of_readClass? h
      (token :: ·) <$> tokensAt (position + 1 + (rest.length - after.length)) (some ']') after
    | none => .error ⟨position, .unclosedClass⟩
  | c :: rest => (.literal c :: ·) <$> tokensAt (position + 1) (some c) rest
termination_by cs.length

/-- The tokens of a glob. -/
def parse (cs : List Char) : Except SyntaxError (List Token) :=
  tokensAt 0 none cs

/-- A character to which globs give a meaning. -/
def isSpecial (c : Char) : Bool :=
  c == '?' || c == '*' || c == '[' || c == ']'

/-- The glob of one given text: each special character as a class of its own. -/
def escape (cs : List Char) : List Char :=
  cs.flatMap fun c => if isSpecial c then ['[', c, ']'] else [c]

end CallPolicy.Glob
