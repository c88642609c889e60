import CallPolicy.Path.Basic

namespace CallPolicy.Path

/-!
# Paths as text

The program names files the way they were spelled, so it joins and shortens the texts of paths.

* `joinText` — a name in a directory.
* `parentText?` — the directory that a path is in.
* `ancestorTexts` — a path, its directory, the directory of that, and so on.
-/

/-- The text `name` taken from the directory `dir`. -/
def joinText (dir name : List Char) : List Char :=
  if isAbsolute name || dir.isEmpty then name
  else if dir.getLast? = some '/' then dir ++ name
  else dir ++ '/' :: name

/-- A reversed path without the `/` and `.` at its end that say nothing. -/
def trimReversed : List Char → List Char
  | '/' :: rest => if rest.isEmpty then ['/'] else trimReversed rest
  | '.' :: '/' :: rest => trimReversed ('/' :: rest)
  | cs => cs

/-- A path without the `/` and `.` at its end that say nothing. -/
def trimText (cs : List Char) : List Char :=
  (trimReversed cs.reverse).reverse

/-- The path without its last segment. The root and the empty path have no parent. -/
def parentText? (cs : List Char) : Option (List Char) :=
  let reversed := trimReversed cs.reverse
  if reversed.isEmpty || reversed == ['/'] then none
  else some (trimReversed (reversed.dropWhile (· != '/'))).reverse

/-- A path and at most `fuel` of those above it. A parent is shorter, so the length of the path
is fuel enough. -/
def ancestorsFrom : Nat → List Char → List (List Char)
  | 0, cs => [cs]
  | fuel + 1, cs =>
    cs :: match parentText? cs with
      | some parent => ancestorsFrom fuel parent
      | none => []

/-- A path and those above it, nearest first. -/
def ancestorTexts (cs : List Char) : List (List Char) :=
  ancestorsFrom cs.length cs

end CallPolicy.Path
