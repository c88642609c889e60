namespace CallPolicy.Text

/-!
# Escape sequences

A text for a terminal may hold escape sequences, which take no column and are no place to break
a line. `shown` tells which characters of a text stand outside of them.
-/

/-- What has been read of an escape sequence. -/
inductive EscapeState where
  | outside
  /-- The escape character. -/
  | started
  /-- The start of a control sequence, which a character from `@` to `~` ends. -/
  | control
  /-- The start of a command, which a bell ends, or an escape character and a backslash. -/
  | command
  /-- A command up to an escape character in it. -/
  | commandEnd
  deriving DecidableEq, Repr

namespace EscapeState

/-- The state after a character. -/
def next : EscapeState → Char → EscapeState
  | outside, '\x1b' => started
  | outside, _ => outside
  | started, '[' => control
  | started, ']' => command
  | started, _ => outside
  | control, c => if '@' ≤ c ∧ c ≤ '~' then outside else control
  | command, '\x07' | commandEnd, '\x07' | commandEnd, '\\' => outside
  | command, '\x1b' | commandEnd, '\x1b' => commandEnd
  | command, _ | commandEnd, _ => command

/-- The next character belongs to no escape sequence. -/
def shows (s : EscapeState) (c : Char) : Bool :=
  s == outside && c != '\x1b'

end EscapeState

/-- The characters of a text, and whether each stands outside of escape sequences. -/
def shownFrom (s : EscapeState) : List Char → List (Char × Bool)
  | [] => []
  | c :: rest => (c, s.shows c) :: shownFrom (s.next c) rest

def shown (cs : List Char) : List (Char × Bool) :=
  shownFrom .outside cs

theorem map_fst_shownFrom (s : EscapeState) (cs : List Char) :
    (shownFrom s cs).map Prod.fst = cs := by
  induction cs generalizing s with
  | nil => rfl
  | cons c rest ih => simp [shownFrom, ih]

/-- Nothing of a text is lost. -/
@[simp] theorem map_fst_shown (cs : List Char) : (shown cs).map Prod.fst = cs :=
  map_fst_shownFrom .outside cs

end CallPolicy.Text
