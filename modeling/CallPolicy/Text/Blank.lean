namespace CallPolicy.Text

/-!
# White space

* `isBlank` — the characters with the Unicode property `White_Space`.
* `trimStart`, `trimEnd`, `trim` — a text without its leading, trailing, or surrounding
  blank characters.

Texts are lists of characters here: functions that take text apart work on lists, and
`String` appears where a value is stored or shown.
-/

/-- The Unicode property `White_Space`. -/
def isBlank (c : Char) : Bool :=
  let n := c.toNat
  (9 ≤ n && n ≤ 13) || n == 0x20 || n == 0x85 || n == 0xA0 || n == 0x1680 ||
    (0x2000 ≤ n && n ≤ 0x200A) || n == 0x2028 || n == 0x2029 || n == 0x202F || n == 0x205F ||
    n == 0x3000

/-- `cs` without the longest run of characters satisfying `p` at its end. -/
def dropTrailing (p : Char → Bool) (cs : List Char) : List Char :=
  (cs.reverse.dropWhile p).reverse

def trimStart (cs : List Char) : List Char :=
  cs.dropWhile isBlank

def trimEnd (cs : List Char) : List Char :=
  dropTrailing isBlank cs

def trim (cs : List Char) : List Char :=
  trimEnd (trimStart cs)

/-- No character, or blank characters only. -/
def isAllBlank (cs : List Char) : Bool :=
  cs.all isBlank

end CallPolicy.Text
