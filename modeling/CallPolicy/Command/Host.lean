namespace CallPolicy

/-!
# What a command needs from its surroundings

* `Environment` — what is fixed when the program starts.
* `Host` — the file system and the standard input, as actions of a monad.
* `Fault` — why a file cannot be read or written.
-/

structure Environment where
  workDir : String
  /-- The directory of the global configuration, where one is set. -/
  configDir : Option String
  home : Option String
  deriving DecidableEq, Repr

inductive Fault where
  | notFound
  | notDirectory
  | isDirectory
  | nameTooLong
  | other (text : String)
  deriving DecidableEq, Repr

def Fault.message : Fault → String
  | notFound => "No such file or directory (os error 2)"
  | notDirectory => "Not a directory (os error 20)"
  | isDirectory => "Is a directory (os error 21)"
  | nameTooLong => "File name too long (os error 36)"
  | other text => text

structure Host (m : Type → Type) where
  /-- A file, and not a directory, is there. -/
  isFile : String → m Bool
  /-- A file or a directory is there. -/
  isPresent : String → m Bool
  readText : String → m (Except Fault String)
  writeText : String → String → m (Except Fault Unit)
  readInput : m (Except Fault String)

end CallPolicy
