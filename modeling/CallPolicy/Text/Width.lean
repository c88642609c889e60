import CallPolicy.Text.Escape
import CallPolicy.Text.Ranges
import CallPolicy.Text.WidthTable

namespace CallPolicy.Text

/-!
# Width of text

`width` is the number of columns that a text takes on a terminal.
-/

/-- The columns of one character. Control characters take none. -/
def charWidth (c : Char) : Nat :=
  let n := c.toNat
  if n < 0x20 ∨ (0x7F ≤ n ∧ n < 0xA0) then 0
  else if n < 0x80 then 1
  else if inRanges zeroWidthRanges n then 0
  else if inRanges wideRanges n then 2
  else
    match n with
    | 0x17A4 => 2
    | 0x17D8 => 3
    | _ => 1

/-- The columns of a text. Escape sequences take none. -/
def width (cs : List Char) : Nat :=
  (shown cs).foldl
    (fun columns (c, isShown) => if isShown then columns + charWidth c else columns) 0

example : width "a\u0301漢".toList = 3 := by decide +kernel

example : width "\x1b[31mred\x1b[0m".toList = 3 := by decide +kernel

end CallPolicy.Text
