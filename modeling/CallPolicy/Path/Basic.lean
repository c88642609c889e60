import CallPolicy.Text.Split

namespace CallPolicy

open Text

/-!
# Paths

A path is what its text means to a file system without links: whether it starts at the root,
and its segments. No file system is consulted.

* `Path.ofText`, `Path.text` — reading and writing with `/` as the separator.
* `unifySeparators` — `\` is as good a separator as `/`.
* `Path.join` — a path taken from a directory.
* `Path.clean` — the path without `.` and `..`.
-/

/-- The name of a directory or file: not empty, not `.`, and without `/`. -/
abbrev Segment := List Char

def parentSegment : Segment := ['.', '.']

/-- `\` is as good a separator as `/`. -/
def unifySeparators (cs : List Char) : List Char :=
  cs.map fun c => if c = '\\' then '/' else c

/-- The text starts at the root of the file system. -/
def isAbsolute (cs : List Char) : Bool :=
  cs.head? == some '/'

structure Path where
  rooted : Bool
  segments : List Segment
  deriving DecidableEq, Repr

namespace Path

/-- The segments of a text: empty pieces and `.` say nothing. -/
def segmentsOf (cs : List Char) : List Segment :=
  (splitOn '/' cs).filter fun piece => !piece.isEmpty && piece != ['.']

def ofText (cs : List Char) : Path where
  rooted := isAbsolute cs
  segments := segmentsOf cs

/-- The text of a path; the text of the empty relative path is empty. -/
def text (p : Path) : List Char :=
  (if p.rooted then ['/'] else []) ++ ['/'].intercalate p.segments

def toString (p : Path) : String :=
  String.ofList p.text

/-- `p` taken from the directory `dir`. -/
def join (dir p : Path) : Path :=
  if p.rooted then p else { dir with segments := dir.segments ++ p.segments }

/-! ### Folding `..` -/

/-- One more segment, on the segments kept so far, last first. `..` cancels the segment before
it; at the root it says nothing. -/
def push (rooted : Bool) (kept : List Segment) (s : Segment) : List Segment :=
  if s = parentSegment then
    match kept with
    | [] => if rooted then [] else [s]
    | top :: below => if top = parentSegment then s :: kept else below
  else s :: kept

/-- The path without `..`, but for those at the start of a relative path. -/
def clean (p : Path) : Path :=
  { p with segments := (p.segments.foldl (push p.rooted) []).reverse }

/-- The path `text` taken from the directory `dir` and cleaned. -/
def resolve (dir : Path) (text : List Char) : Path :=
  (dir.join (ofText (unifySeparators text))).clean

end Path

end CallPolicy
