import CallPolicy.Command.Host
import CallPolicy.Path.Basic

namespace CallPolicy

/-!
# A file system in memory

* `FileTree` — directories and files without links.
* `FileTree.resolve` — where the text of a path leads.
* `FileTree.host` — the tree as the surroundings of a command.
-/

structure FileTree where
  files : List (List Segment × String)
  dirs : List (List Segment)
  deriving DecidableEq, Repr

namespace FileTree

def file? (t : FileTree) (path : List Segment) : Option String :=
  t.files.lookup path

/-- The root, a directory of the tree, or one that something is in. -/
def isDir (t : FileTree) (path : List Segment) : Bool :=
  path.isEmpty || t.dirs.any (path.isPrefixOf ·) ||
    t.files.any fun (file, _) => path.isPrefixOf file && path.length < file.length

/-- The file is written, in the place of one that was there. -/
def write (t : FileTree) (path : List Segment) (text : String) : FileTree :=
  { t with files := (path, text) :: t.files.filter (·.1 != path) }

/-! ### Paths -/

/-- Where a path leads: to a file, to a directory, or to a name in a directory that nothing
has. -/
inductive Target where
  | file (path : List Segment) (text : String)
  | dir (path : List Segment)
  | missing (path : List Segment)
  deriving DecidableEq, Repr

/-- What is at a place, if anything. -/
def look (t : FileTree) (path : List Segment) : Target :=
  match t.file? path with
  | some text => .file path text
  | none => if t.isDir path then .dir path else .missing path

/-- The bytes that a text takes. -/
def byteLength (cs : List Char) : Nat :=
  cs.foldl (fun bytes c => bytes + c.utf8Size) 0

/-- The most bytes of one name. -/
def nameLimit : Nat := 255

/-- The most bytes of the text of a path. -/
def pathLimit : Nat := 4095

/-- Follows the pieces of a path. Every piece but the last leads to a directory. -/
def follow (t : FileTree) : Target → List Segment → Except Fault Target
  | target, [] => .ok target
  | .file _ _, _ :: _ => .error .notDirectory
  | .missing _, _ :: _ => .error .notFound
  | .dir path, piece :: rest =>
    if piece.isEmpty || piece == ['.'] then t.follow (.dir path) rest
    else if piece = parentSegment then t.follow (.dir path.dropLast) rest
    else if nameLimit < byteLength piece then .error .nameTooLong
    else t.follow (t.look (path ++ [piece])) rest

/-- Where a text leads from the working directory. -/
def resolve (t : FileTree) (workDir : List Segment) (text : String) : Except Fault Target :=
  if text.isEmpty then .error .notFound
  else if pathLimit < byteLength text.toList then .error .nameTooLong
  else
    let start := if isAbsolute text.toList then [] else workDir
    t.follow (.dir start) (Text.splitOn '/' text.toList)

/-! ### Actions -/

def readText (t : FileTree) (workDir : List Segment) (path : String) : Except Fault String :=
  match t.resolve workDir path with
  | .ok (.file _ text) => .ok text
  | .ok (.dir _) => .error .isDirectory
  | .ok (.missing _) => .error .notFound
  | .error fault => .error fault

/-- The tree with a file written, where a file can be. -/
def writeText (t : FileTree) (workDir : List Segment) (path text : String) :
    Except Fault FileTree :=
  match t.resolve workDir path with
  | .ok (.file place _) | .ok (.missing place) => .ok (t.write place text)
  | .ok (.dir _) => .error .isDirectory
  | .error fault => .error fault

def isFile (t : FileTree) (workDir : List Segment) (path : String) : Bool :=
  match t.resolve workDir path with
  | .ok (.file _ _) => true
  | _ => false

def isPresent (t : FileTree) (workDir : List Segment) (path : String) : Bool :=
  match t.resolve workDir path with
  | .ok (.file _ _) | .ok (.dir _) => true
  | _ => false

/-- The tree as the surroundings of a command with the given standard input. -/
def host (env : Environment) (input : String) : Host (StateM FileTree) :=
  let workDir := (Path.ofText env.workDir.toList).segments
  { isFile := fun path => do return (← get).isFile workDir path
    isPresent := fun path => do return (← get).isPresent workDir path
    readText := fun path => do return (← get).readText workDir path
    writeText := fun path text => do
      match (← get).writeText workDir path text with
      | .ok tree => set tree; return .ok ()
      | .error fault => return .error fault
    readInput := return .ok input }

end FileTree

end CallPolicy
