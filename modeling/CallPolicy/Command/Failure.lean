import CallPolicy.Call.Document
import CallPolicy.Rule.Document
import CallPolicy.Text.Split

namespace CallPolicy

/-!
# Failures of a command

A failure is what went wrong and its causes, each the cause of the one before it.
`Failure.text` is the report that the program ends with.
-/

structure Failure where
  message : String
  causes : List String
  deriving DecidableEq, Repr

namespace Failure

/-- A text whose further lines are indented. -/
def indentLines (indent : List Char) (text : List Char) : List Char :=
  ('\n' :: indent).intercalate (Text.splitOn '\n' text)

/-- A number in five columns. -/
def numberText (n : Nat) : List Char :=
  let digits := Nat.toDigits 10 n
  List.replicate (5 - digits.length) ' ' ++ digits ++ [':', ' ']

/-- The list of causes; several are numbered from 0. -/
def causeLines (causes : List String) : List (List Char) :=
  match causes with
  | [cause] =>
    let indent := List.replicate 4 ' '
    [indent ++ indentLines indent cause.toList]
  | causes =>
    causes.zipIdx.map fun (cause, n) =>
      numberText n ++ indentLines (List.replicate 7 ' ') cause.toList

def text (f : Failure) : String :=
  let causes :=
    if f.causes.isEmpty then []
    else "\n\nCaused by:\n".toList ++ ['\n'].intercalate (causeLines f.causes)
  "Error: " ++ f.message ++ String.ofList causes

end Failure

/-! ### Causes -/

def LoadError.causes : LoadError → List String
  | malformed => ["TOML parse error: malformed document", "malformed document"]
  | invalid place cause =>
    let placed := s!"{place.text}: {cause.message}"
    match cause with
    | .unknownSeverity _ => [placed, placed]
    | _ => [placed, placed, cause.message]

def CallSiteError.causes : CallSiteError → List String
  | malformed => ["invalid call-site JSON: malformed text", "malformed text"]
  | invalid index cause => [s!"call site #{index}: {cause.message}", cause.message]

end CallPolicy
