import CallPolicy.Glob.Syntax

namespace CallPolicy.Glob

/-!
# Matching globs

`accepts tokens path` holds when the tokens stand for the whole path. No token for single
characters stands for a `/`; letters are matched in their case.

`acceptsQuickly` gives the same answer (`acceptsQuickly_eq`) without trying a token again: it
answers for every rest of the path at once, from the last token to the first.
-/

/-- `c` is a character that the token stands for. -/
def Token.admits : Token → Char → Bool
  | literal a, c => a == c
  | anyChar, c => c != '/'
  | oneOf ranges, c => c != '/' && ranges.any (·.contains c)
  | noneOf ranges, c => c != '/' && !ranges.any (·.contains c)
  | anyRun, _ | anySegments, _ => false

/-- `p` holds of a rest of the text that is reached without passing a `/`. -/
def withinSegment (p : List Char → Bool) : List Char → Bool
  | [] => p []
  | c :: rest => p (c :: rest) || (c != '/' && withinSegment p rest)

/-- `p` holds of a rest of the text that starts after one of its `/`, or of its end. -/
def afterSegments (p : List Char → Bool) : List Char → Bool
  | [] => p []
  | c :: rest => (c == '/' && p rest) || afterSegments p rest

/-- The tokens stand for the whole text. -/
def accepts : List Token → List Char → Bool
  | [], cs => cs.isEmpty
  | .anyRun :: tokens, cs => withinSegment (accepts tokens) cs
  | .anySegments :: tokens, cs => accepts tokens cs || afterSegments (accepts tokens) cs
  | _ :: _, [] => false
  | token :: tokens, c :: cs => token.admits c && accepts tokens cs

/-! ### Answers for every rest of a text -/

/-- What `p` answers for a text and for each of its rests, down to the empty one. -/
def answers (p : List Char → Bool) : List Char → List Bool
  | [] => [p []]
  | c :: rest => p (c :: rest) :: answers p rest

/-- The answers of `withinSegment p`, given those of `p`. -/
def withinRow : List Char → List Bool → List Bool
  | [], next => next
  | c :: rest, next =>
    let row := withinRow rest next.tail
    (next.headD false || (c != '/' && row.headD false)) :: row

/-- The answers of `afterSegments p`, given those of `p`. -/
def afterRow : List Char → List Bool → List Bool
  | [], next => next
  | c :: rest, next =>
    let row := afterRow rest next.tail
    ((c == '/' && next.tail.headD false) || row.headD false) :: row

/-- The answers of a token for a single character before tokens with the answers `next`. -/
def charRow (token : Token) : List Char → List Bool → List Bool
  | [], _ => [false]
  | c :: rest, next => (token.admits c && next.tail.headD false) :: charRow token rest next.tail

/-- The answers of a list of tokens. -/
def acceptsRow (cs : List Char) : List Token → List Bool
  | [] => answers List.isEmpty cs
  | .anyRun :: tokens => withinRow cs (acceptsRow cs tokens)
  | .anySegments :: tokens =>
    let next := acceptsRow cs tokens
    next.zipWith or (afterRow cs next)
  | token :: tokens => charRow token cs (acceptsRow cs tokens)

def acceptsQuickly (tokens : List Token) (cs : List Char) : Bool :=
  (acceptsRow cs tokens).headD false

/-! ### Agreement -/

@[simp] theorem head?_answers (p : List Char → Bool) (cs : List Char) :
    (answers p cs).head? = some (p cs) := by
  cases cs <;> rfl

theorem withinRow_answers (p : List Char → Bool) (cs : List Char) :
    withinRow cs (answers p cs) = answers (withinSegment p) cs := by
  induction cs with
  | nil => rfl
  | cons c rest ih => simp [withinRow, ih, answers, withinSegment]

theorem afterRow_answers (p : List Char → Bool) (cs : List Char) :
    afterRow cs (answers p cs) = answers (afterSegments p) cs := by
  induction cs with
  | nil => rfl
  | cons c rest ih => simp [afterRow, ih, answers, afterSegments]

theorem charRow_answers (token : Token) (p q : List Char → Bool) (hnil : q [] = false)
    (hcons : ∀ c rest, q (c :: rest) = (token.admits c && p rest)) (cs : List Char) :
    charRow token cs (answers p cs) = answers q cs := by
  induction cs with
  | nil => simp [charRow, answers, hnil]
  | cons c rest ih => simp [charRow, ih, answers, hcons]

theorem zipWith_or_answers (p q : List Char → Bool) (cs : List Char) :
    (answers p cs).zipWith or (answers q cs) = answers (fun cs => p cs || q cs) cs := by
  induction cs with
  | nil => rfl
  | cons c rest ih => simp [answers, ih]

theorem acceptsRow_eq (tokens : List Token) (cs : List Char) :
    acceptsRow cs tokens = answers (accepts tokens) cs := by
  induction tokens with
  | nil =>
    have : accepts [] = List.isEmpty := by funext cs; simp [accepts]
    rw [this]; rfl
  | cons token tokens ih =>
    cases token with
    | anyRun =>
      have : accepts (.anyRun :: tokens) = withinSegment (accepts tokens) := by
        funext cs; simp [accepts]
      rw [this, ← withinRow_answers, ← ih]; rfl
    | anySegments =>
      have : accepts (.anySegments :: tokens) =
          fun cs => accepts tokens cs || afterSegments (accepts tokens) cs := by
        funext cs; simp [accepts]
      rw [this, ← zipWith_or_answers, ← afterRow_answers, ← ih]; rfl
    | literal _ | anyChar | oneOf _ | noneOf _ =>
      rw [acceptsRow, ih]
      · exact charRow_answers _ _ _ (by simp [accepts]) (by intros; simp [accepts]) cs
      all_goals simp

/-- The quick answer is the right one. -/
@[simp] theorem acceptsQuickly_eq (tokens : List Token) (cs : List Char) :
    acceptsQuickly tokens cs = accepts tokens cs := by
  simp [acceptsQuickly, acceptsRow_eq]

end CallPolicy.Glob
