import CallPolicy.Text.BreakClass
import CallPolicy.Text.Escape

namespace CallPolicy.Text

/-!
# Line breaking

Where a line of text may be broken, after the Unicode line breaking algorithm.

* `BreakState.allows` — whether a break is allowed before a character.
* `breakable` — a line in pieces, each of which may end a line.
-/

/-! ### Kinds of classes -/

namespace BreakClass

def isMark (cls : BreakClass) : Bool :=
  cls == combining || cls == joiner

def isLetter (cls : BreakClass) : Bool :=
  cls == alphabetic || cls == hebrew || cls == dottedCircle

/-- Ideographs and pictures. -/
def isPicture (cls : BreakClass) : Bool :=
  cls == ideographic || cls == reservedPictograph || cls == emojiBase || cls == emojiModifier

/-- Korean syllables and what they are made of. -/
def isHangul (cls : BreakClass) : Bool :=
  cls == hangulInitial || cls == hangulVowel || cls == hangulFinal || cls == hangulOpen ||
    cls == hangulClosed

/-- Consonants that a virama or another sign may follow. -/
def isAksara (cls : BreakClass) : Bool :=
  cls == aksara || cls == aksaraStart || cls == dottedCircle

def isNumberMark (cls : BreakClass) : Bool :=
  cls == numberBefore || cls == numberAfter

def isOpening (cls : BreakClass) : Bool :=
  cls == openBracket || cls == wideOpenBracket

def isClosing (cls : BreakClass) : Bool :=
  cls == closeBracket || cls == closeParenthesis

def isQuotation (cls : BreakClass) : Bool :=
  cls == quotation || cls == initialQuotation || cls == finalQuotation

/-- An initial quotation mark after this class starts a quotation. -/
def precedesQuotation (cls : BreakClass) : Bool :=
  cls == mandatory || cls == space || cls == zeroWidthSpace || cls == glue || cls.isOpening ||
    cls.isQuotation

/-- A final quotation mark before this class ends a quotation. -/
def followsQuotation (cls : BreakClass) : Bool :=
  cls == mandatory || cls == space || cls == zeroWidthSpace || cls == glue || cls == wordJoiner ||
    cls == exclamation || cls == infixSeparator || cls == slash || cls.isClosing ||
    cls.isQuotation

end BreakClass

/-! ### Rules -/

/-- What stands before a place in a line. Marks count as part of the characters that they stand
on. -/
structure BreakState where
  /-- The class before `last`, a space where spaces stand between the two. -/
  previous : Option BreakClass
  /-- The class of the last character that is not a space. -/
  last : Option BreakClass
  /-- Spaces stand between that character and the place. -/
  spaced : Bool
  /-- A joiner stands directly before the place. -/
  joined : Bool
  /-- An odd number of regional indicators ends there. -/
  oddRegional : Bool
  deriving DecidableEq, Repr

namespace BreakState

open BreakClass

def start : BreakState := ⟨none, none, false, false, false⟩

/-- A mark at this place belongs to the character before it. -/
def attaches (s : BreakState) : Bool :=
  !s.spaced && s.last.any fun cls => cls != mandatory && cls != zeroWidthSpace

/-- The class as which a character counts. -/
def resolve (s : BreakState) (cls : BreakClass) : BreakClass :=
  if cls.isMark && !s.attaches then alphabetic else cls

/-- The state after a character. -/
def next (s : BreakState) (cls : BreakClass) : BreakState :=
  if cls = space then { s with spaced := true, joined := false }
  else if cls.isMark && s.attaches then { s with joined := cls == joiner }
  else
    let resolved := s.resolve cls
    { previous := if s.spaced then some space else s.last
      last := some resolved
      spaced := false
      joined := cls == joiner
      oddRegional := resolved == regional && (s.spaced || !s.oddRegional) }

/-- The last character is a quotation mark that starts a quotation. -/
def opensQuotation (s : BreakState) : Bool :=
  s.last == some initialQuotation && s.previous.all precedesQuotation

/-- The last two characters are a Hebrew letter and a hyphen. -/
def endsInHebrewHyphen (s : BreakState) : Bool :=
  s.previous == some hebrew && (s.last == some hyphen || s.last == some breakAfter)

/-- The last two characters are a consonant and a virama. -/
def endsInVirama (s : BreakState) : Bool :=
  s.previous.any isAksara && s.last == some virama

/-- No break between two characters that make up a word or a number. -/
def holdsTogether (a b : BreakClass) : Bool :=
  (a.isLetter && (b.isLetter || b == numeric || b.isNumberMark)) ||
  (b.isLetter && (a == numeric || a.isNumberMark || a == infixSeparator)) ||
  (a == numberBefore && (b.isPicture || b.isHangul)) ||
  ((a.isPicture || a.isHangul) && b == numberAfter) ||
  ((a.isClosing || a == numeric) && b.isNumberMark) ||
  (a.isNumberMark && (b.isOpening || b == numeric)) ||
  (b == numeric && (a == hyphen || a == infixSeparator || a == numeric || a == slash)) ||
  ((a.isLetter || a == numeric) && b == openBracket) ||
  (a == closeParenthesis && (b.isLetter || b == numeric)) ||
  ((a == emojiBase || a == reservedPictograph) && b == emojiModifier)

/-- No break inside a Korean syllable. -/
def joinsHangul (a b : BreakClass) : Bool :=
  (a == hangulInitial &&
    (b == hangulInitial || b == hangulVowel || b == hangulOpen || b == hangulClosed)) ||
  ((a == hangulVowel || a == hangulOpen) && (b == hangulVowel || b == hangulFinal)) ||
  ((a == hangulFinal || a == hangulClosed) && b == hangulFinal)

/-- No break inside a syllable of a script of Brahmi's kind. `following` is the class after
`b`. -/
def joinsAksara (s : BreakState) (a b : BreakClass) (following : Option BreakClass) : Bool :=
  (a == aksaraPrebase && b.isAksara) ||
  (a.isAksara && (b == virama || b == viramaFinal)) ||
  (s.endsInVirama && (b == aksara || b == dottedCircle)) ||
  (a.isAksara && b.isAksara && following == some viramaFinal)

/-- A break is allowed between neighbours `a` and `b`. -/
def allowsPair (s : BreakState) (a b : BreakClass) (following : Option BreakClass) : Bool :=
  if a == wordJoiner || a == glue || (b == glue && a != breakAfter && a != hyphen) ||
      a.isQuotation || b.isQuotation then false
  else if a == contingent || b == contingent then true
  else
    !(b == breakAfter || b == hyphen || b == nonStarter || a == breakBefore ||
      s.endsInHebrewHyphen || (a == slash && b == hebrew) || b == inseparable ||
      (a == regional && b == regional && s.oddRegional) || holdsTogether a b ||
      joinsHangul a b || s.joinsAksara a b following)

/-- No break before a character even after spaces, given what stands before these.
`following` is the class after `b`, where the line does not end. -/
def forbidsAfterSpaces (s : BreakState) (b : BreakClass) (following : Option BreakClass) : Bool :=
  b == wordJoiner || b.isClosing || b == exclamation || b == infixSeparator || b == slash ||
    s.last.any isOpening || s.opensQuotation ||
    (b == finalQuotation && following.all followsQuotation) ||
    (s.last.any isClosing && b == nonStarter) || (s.last == some dash && b == dash)

/-- A break is allowed before a character of a class. `following` is the class of the next
character that is no mark. -/
def allows (s : BreakState) (cls : BreakClass) (following : Option BreakClass) : Bool :=
  if s.last == some mandatory && !s.spaced then true
  else if cls == mandatory || cls == space || cls == zeroWidthSpace then false
  else if s.last == some zeroWidthSpace then true
  else if s.joined || (cls.isMark && s.attaches) then false
  else
    let cls := s.resolve cls
    if s.forbidsAfterSpaces cls following then false
    else if s.spaced then true
    else s.last.any fun last => s.allowsPair last cls following

end BreakState

/-! ### Lines -/

/-- The characters of a line with their classes. Those of escape sequences have none. -/
def classified (line : List Char) : List (Char × Option BreakClass) :=
  (shown line).map fun (c, isShown) => (c, if isShown then some (breakClass c) else none)

/-- The class of the first character that is no mark. -/
def followingClass (line : List (Char × Option BreakClass)) : Option BreakClass :=
  line.findSome? fun (_, cls) => cls.filter fun cls => !cls.isMark

def isHyphen (c : Char) : Bool :=
  c == '-' || c == '\u00AD'

/-- The pieces of the rest of a line. `piece` is the piece that is being read and `hidden` the
escape sequences after it, last character first. No piece but the last ends in a hyphen; escape
sequences belong to the piece after them. -/
def breakableFrom (s : BreakState) (piece hidden : List Char) :
    List (Char × Option BreakClass) → List (List Char)
  | [] => if (hidden ++ piece).isEmpty then [] else [(hidden ++ piece).reverse]
  | (c, none) :: rest => breakableFrom s piece (c :: hidden) rest
  | (c, some cls) :: rest =>
    if s.allows cls (followingClass rest) && !piece.isEmpty && !piece.head?.any isHyphen then
      piece.reverse :: breakableFrom (s.next cls) (c :: hidden) [] rest
    else breakableFrom (s.next cls) (c :: (hidden ++ piece)) [] rest

/-- The pieces with the last two in one. -/
def joinLast : List (List Char) → List (List Char)
  | [] => []
  | [piece] => [piece]
  | [piece, last] => [piece ++ last]
  | piece :: rest => piece :: joinLast rest

/-- A line in pieces, each of which may end a line. A piece before a hyphen at the end of the
line may not. -/
def breakable (line : List Char) : List (List Char) :=
  let line := classified line
  let pieces := breakableFrom .start [] [] line
  let lastShown := line.reverse.find? fun (_, cls) => cls.isSome
  if lastShown.any fun (c, _) => isHyphen c then joinLast pieces else pieces

/-! ### Nothing is lost -/

theorem map_fst_classified (line : List Char) : (classified line).map Prod.fst = line := by
  rw [classified, List.map_map]
  exact map_fst_shown line

theorem flatten_breakableFrom (s : BreakState) (piece hidden : List Char)
    (line : List (Char × Option BreakClass)) :
    (breakableFrom s piece hidden line).flatten =
      (hidden ++ piece).reverse ++ line.map Prod.fst := by
  induction line generalizing s piece hidden with
  | nil =>
    rw [breakableFrom]
    split
    · simp_all
    · simp
  | cons entry rest ih =>
    obtain ⟨c, cls⟩ := entry
    cases cls with
    | none => simp [breakableFrom, ih]
    | some cls =>
      rw [breakableFrom]
      split <;> simp [ih]

theorem flatten_joinLast (pieces : List (List Char)) :
    (joinLast pieces).flatten = pieces.flatten := by
  fun_induction joinLast pieces <;> simp_all

/-- The pieces make up the line. -/
theorem flatten_breakable (line : List Char) : (breakable line).flatten = line := by
  have h : (breakableFrom .start [] [] (classified line)).flatten = line := by
    simp [flatten_breakableFrom, map_fst_classified]
  simp only [breakable]
  split
  · rw [flatten_joinLast, h]
  · exact h

/-! ### Examples -/

example : breakable "a (b) c".toList = ["a ".toList, "(b) ".toList, "c".toList] := by
  decide +kernel

/-- A quotation mark after a space opens a quotation, so that no line ends behind it. -/
example : breakable "a « b".toList = ["a ".toList, "« b".toList] := by decide +kernel

end CallPolicy.Text
