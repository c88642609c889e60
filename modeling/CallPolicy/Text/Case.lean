import CallPolicy.Text.CaseTable
import CallPolicy.Text.Ranges

namespace CallPolicy.Text

/-!
# Lower-casing

`lower` maps every character to its Unicode lower-case form. Two characters are special: a
capital sigma at the end of a word becomes a final sigma, and a capital I with a dot becomes
two characters.
-/

/-! ### Single characters -/

/-- The lower-case form of a character that has a form of one character whatever its
neighbours are. -/
def lowerChar (c : Char) : Char :=
  if c.toNat < 0x80 then c.toLower
  else
    match lowerRuns.find? (·.covers c.toNat) with
    | some run => Char.ofNat (c.toNat + run.shift).toNat
    | none => c

/-- The property `Cased`. -/
def isCased (c : Char) : Bool :=
  if c.toNat < 0x80 then c.isAlpha else inRanges casedRanges c.toNat

/-- The property `Case_Ignorable`. -/
def isCaseIgnorable (c : Char) : Bool :=
  if c.toNat < 0x80 then c == '\'' || c == '.' || c == ':' || c == '^' || c == '\x60'
  else inRanges caseIgnorableRanges c.toNat

/-! ### Texts -/

/-- The first character that is not case-ignorable exists and is cased. -/
def startsCased (cs : List Char) : Bool :=
  (cs.dropWhile isCaseIgnorable).head?.any isCased

/-- The lower-case form of `c`, given the characters before it, nearest first, and those
after it. -/
def lowerAt (before : List Char) (c : Char) (after : List Char) : List Char :=
  if c = 'Σ' then
    if startsCased before && !startsCased after then ['ς'] else ['σ']
  else if c = 'İ' then ['i', '\u0307']
  else [lowerChar c]

/-- The lower-case form of a text that stands after the reverse of `before`. -/
def lowerAfter (before : List Char) : List Char → List Char
  | [] => []
  | c :: rest => lowerAt before c rest ++ lowerAfter (c :: before) rest

/-- The lower-case form of a text. -/
def lower (cs : List Char) : List Char :=
  lowerAfter [] cs

example : lower "ΟΔΟΣ ΣΑΣ".toList = "οδος σας".toList := by decide +kernel

example : lower "İX".toList = "i\u0307x".toList := by decide +kernel

end CallPolicy.Text
