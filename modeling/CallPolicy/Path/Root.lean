import CallPolicy.Path.Basic

namespace CallPolicy

/-!
# The project root

`ProjectRoot` is the directory that relative file names and path globs start from. It is
absolute and clean, so that the two always meet in the same place.
-/

structure ProjectRoot where
  path : Path
  deriving DecidableEq, Repr

namespace ProjectRoot

/-- The root spelled `root`; a text that does not start with `/` is taken from `workDir`. -/
def locate (workDir root : String) : ProjectRoot where
  path :=
    let text :=
      if isAbsolute root.toList then root.toList else workDir.toList ++ '/' :: root.toList
    (Path.ofText (unifySeparators text)).clean

def toString (r : ProjectRoot) : String :=
  r.path.toString

/-- The file named `file`, taken from the root. -/
def resolve (r : ProjectRoot) (file : String) : Path :=
  r.path.resolve file.toList

end ProjectRoot

end CallPolicy
