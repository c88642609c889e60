import CallPolicy.Command.Program

/-!
# The command line

The program on the real file system.
-/

namespace CallPolicy

/-- A code is the system's number `n` of an error, which some actions report negated. -/
def isErrorNumber (n code : UInt32) : Bool :=
  code == n || code == 0 - n

/-- Why an action of the system failed. -/
def Fault.ofIO (e : IO.Error) : Fault :=
  match e with
  | .noFileOrDirectory _ _ _ => .notFound
  | .inappropriateType _ code _ => if isErrorNumber 20 code then .notDirectory else .isDirectory
  | .invalidArgument _ code _ =>
    if isErrorNumber 36 code then .nameTooLong else .other (toString e)
  | .permissionDenied _ _ _ => .other "Permission denied (os error 13)"
  | e => .other (toString e)

/-- The real file system. -/
def realHost : Host IO where
  isFile := fun path => do
    try
      let data ← (System.mkFilePath [path]).metadata
      pure (data.type == .file)
    catch _ => pure false
  isPresent := fun path => (System.mkFilePath [path]).pathExists
  readText := fun path => do
    try pure (.ok (← IO.FS.readFile path)) catch e => pure (.error (.ofIO e))
  writeText := fun path text => do
    try pure (.ok (← IO.FS.writeFile path text)) catch e => pure (.error (.ofIO e))
  readInput := do
    try pure (.ok (← (← IO.getStdin).readToEnd)) catch e => pure (.error (.ofIO e))

end CallPolicy

def main (arguments : List String) : IO UInt32 := do
  let env : CallPolicy.Environment := {
    workDir := (← IO.currentDir).toString
    configDir := ← IO.getEnv "DISALLOWED_CONFIG_DIR"
    home := ← IO.getEnv "HOME" }
  let outcome ← CallPolicy.run env CallPolicy.realHost arguments
  IO.print outcome.output
  match outcome.failure with
  | some failure => IO.eprintln failure.text
  | none => pure ()
  pure outcome.exitCode.toUInt32
