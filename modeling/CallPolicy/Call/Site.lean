import CallPolicy.Argument.Value
import CallPolicy.Symbol.Basic

namespace CallPolicy

/-!
# Call sites

A call site is one call in the analysed code, with its names resolved: `invoked` is what the
code says, `declaring` is who the member belongs to, and `alsoDeclaredIn` lists who else
declares it.
-/

structure CallSite where
  invoked : Symbol
  declaring : Symbol
  alsoDeclaredIn : List Symbol
  /-- The function or method that the call stands in. -/
  caller : Option Symbol
  /-- The file, as reported. -/
  file : String
  /-- Counted from 1. -/
  line : UInt64
  arguments : List Argument
  deriving DecidableEq

/-- The kind of call is the kind of what the code names. -/
def CallSite.kind (c : CallSite) : SymbolKind :=
  c.invoked.kind

end CallPolicy
