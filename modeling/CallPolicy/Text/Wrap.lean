import CallPolicy.Text.Alphanumeric
import CallPolicy.Text.Blank
import CallPolicy.Text.LineBreak
import CallPolicy.Text.Split
import CallPolicy.Text.Width

namespace CallPolicy.Text

/-!
# Wrapping text

`wrap` lays a text out in lines of a given width, with indentations. A line takes words as long
as they fit; a word that is wider than a line is cut.
-/

/-- A piece of a line that is not broken, and the spaces after it, which a line end
swallows. -/
structure Word where
  text : List Char
  spaces : Nat
  deriving DecidableEq, Repr

def Word.ofPiece (piece : List Char) : Word :=
  let text := dropTrailing (· == ' ') piece
  ⟨text, piece.length - text.length⟩

/-! ### Words -/

/-- A word in parts that end in a hyphen between letters or digits. `before` is the part that
is being read, last character first. -/
def splitAtHyphens (before : List Char) : List Char → List (List Char)
  | [] => [before.reverse]
  | c :: rest =>
    if c = '-' ∧ before.head?.any isAlphanumeric ∧ rest.head?.any isAlphanumeric then
      (c :: before).reverse :: splitAtHyphens [] rest
    else splitAtHyphens (c :: before) rest

/-- A text in parts of at most `limit` columns, or of one character. `part` is the part that is
being read, last character first, and takes `used` columns. -/
def cutFrom (limit : Nat) (part : List Char) (used : Nat) :
    List (Char × Bool) → List (List Char)
  | [] => if part.isEmpty then [] else [part.reverse]
  | (c, false) :: rest => cutFrom limit (c :: part) used rest
  | (c, true) :: rest =>
    if 0 < used ∧ limit < used + charWidth c then
      part.reverse :: cutFrom limit [c] (charWidth c) rest
    else cutFrom limit (c :: part) (used + charWidth c) rest

def cut (limit : Nat) (cs : List Char) : List (List Char) :=
  cutFrom limit [] 0 (shown cs)

/-- The parts of a word; the spaces follow the last. -/
def withSpaces (spaces : Nat) : List (List Char) → List Word
  | [] => []
  | [last] => [⟨last, spaces⟩]
  | part :: rest => ⟨part, 0⟩ :: withSpaces spaces rest

/-- The words of a line, none of them wider than `limit`. -/
def words (limit : Nat) (line : List Char) : List Word :=
  (breakable line).flatMap fun piece =>
    let word := Word.ofPiece piece
    (withSpaces word.spaces (splitAtHyphens [] word.text)).flatMap fun part =>
      if limit < width part.text then withSpaces part.spaces (cut limit part.text) else [part]

/-! ### Lines -/

/-- The words of each line. `line` holds the words of the line that is being filled, last
first, and takes `used` columns with its spaces. -/
def fill (limit : Nat) (line : List Word) (used : Nat) : List Word → List (List Word)
  | [] => [line.reverse]
  | word :: rest =>
    let size := width word.text
    if limit < used + size ∧ !line.isEmpty then
      line.reverse :: fill limit [word] (size + word.spaces) rest
    else fill limit (word :: line) (used + size + word.spaces) rest

/-- The text of a line, without the spaces at its end. -/
def lineText : List Word → List Char
  | [] => []
  | [last] => last.text
  | word :: rest => word.text ++ List.replicate word.spaces ' ' ++ lineText rest

/-- The lines of a paragraph. An empty word stands in front, so that a first word may be too
wide for its line. -/
def paragraph (limit : Nat) (line : List Char) : List (List Char) :=
  (fill limit [] 0 (⟨[], 0⟩ :: words limit line)).map lineText

/-- How text is laid out. The indentations take the same number of columns. -/
structure Layout where
  columns : Nat
  /-- Stands before the first line. -/
  first : List Char
  /-- Stands before each other line. -/
  other : List Char
  deriving DecidableEq, Repr

/-- The lines of a text, joined by line feeds. -/
def wrap (layout : Layout) (cs : List Char) : List Char :=
  let limit := layout.columns - width layout.other
  match (splitOn '\n' cs).flatMap (paragraph limit) with
  | [] => layout.first
  | first :: rest =>
    ['\n'].intercalate ((layout.first ++ first) :: rest.map (layout.other ++ ·))

end CallPolicy.Text
