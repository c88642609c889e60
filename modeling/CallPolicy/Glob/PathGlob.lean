import CallPolicy.Glob.Match
import CallPolicy.Path.Root
import CallPolicy.Text.Blank

namespace CallPolicy

open Text

/-!
# Path globs

A path glob is a glob anchored at the project root.

* `PathGlob.compile` — a path glob from its text.
* `PathGlob.covers` — whether it matches a path.
-/

inductive GlobError where
  | empty
  | invalid (pattern : String) (cause : Glob.SyntaxError)
  deriving DecidableEq, Repr

def GlobError.message : GlobError → String
  | empty => "path glob must not be empty"
  | invalid pattern cause => s!"invalid path glob `{pattern}`: {cause.message}"

structure PathGlob where
  /-- The glob as given. -/
  text : String
  /-- The glob with the root in front of it, clean. -/
  anchored : String
  tokens : List Glob.Token
  deriving DecidableEq, Repr

namespace PathGlob

/-- The glob of every path that `glob` stands for at the root; the name of the root has no
wildcards. -/
def anchor (root : ProjectRoot) (glob : List Char) : Path :=
  (Path.ofText (Glob.escape root.path.text)).resolve glob

def compile (root : ProjectRoot) (glob : String) : Except GlobError PathGlob :=
  if isAllBlank glob.toList then .error .empty
  else
    let anchored := (anchor root glob.toList).text
    match Glob.parse anchored with
    | .ok tokens => .ok { text := glob, anchored := String.ofList anchored, tokens }
    | .error cause => .error (.invalid glob cause)

def covers (g : PathGlob) (path : String) : Bool :=
  Glob.acceptsQuickly g.tokens (unifySeparators path.toList)

end PathGlob

/-- Some glob of the list matches the path. -/
def anyCovers (globs : List PathGlob) (path : String) : Bool :=
  globs.any (·.covers path)

end CallPolicy
