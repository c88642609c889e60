import CallPolicy.Call.Site
import CallPolicy.Rule.Basic

namespace CallPolicy

/-!
# Exemptions

`Rule.judge` decides whether a rule allows a call that it is about. The first step that applies
decides.

1. A value of `exceptParams` forbids the call.
2. In a file of `allowIn` or a caller of `allowInCallers`, `Rule.judgeAllowed` decides by the
   arguments.
3. `allowExceptIn`, or else `allowExceptInCallers`, forbids the call inside and allows it
   outside.
4. `exceptParams` allows the call when no argument may be one of its values.
5. `paramsAnywhere` allows the call when every argument is the one it names.
6. The call is forbidden.
-/

inductive ExemptReason where
  | allowedPath
  | allowedCaller
  | outsideDisallowedPaths
  | outsideDisallowedCallers
  | paramsNotForbidden
  | paramsAllowedAnywhere
  deriving DecidableEq, Repr

inductive DisallowReason where
  | forbiddenParam (position : Nat)
  | paramsNotAllowed
  | disallowedPath
  | disallowedCaller
  /-- It depends on an argument of which nothing is known. -/
  | unknownParam (position : Nat)
  | noExemption
  deriving DecidableEq, Repr

inductive Exemption where
  | exempt (reason : ExemptReason)
  | disallowed (reason : DisallowReason)
  deriving DecidableEq, Repr

def Exemption.isExempt : Exemption → Bool
  | exempt _ => true
  | disallowed _ => false

/-- The call stands in a caller that one of the patterns matches. -/
def CallSite.isCalledFrom (c : CallSite) (patterns : List SymbolPattern) : Bool :=
  c.caller.any fun caller => patterns.any (·.covers caller)

namespace Rule

/-- The decision in an allowed file or caller. -/
def judgeAllowed (r : Rule) (arguments : List Argument) (reason : ExemptReason) : Exemption :=
  match r.exceptParamsInAllowed.search arguments with
  | .hit _ => .disallowed .paramsNotAllowed
  | .unknown position => .disallowed (.unknownParam position)
  | .clear =>
    if r.paramsInAllowed.allHold arguments then .exempt reason
    else .disallowed .paramsNotAllowed

/-- The decision where the rule says nothing about the file or the caller. -/
def judgeArguments (r : Rule) (arguments : List Argument) : Exemption :=
  match r.exceptParams.isEmpty, r.exceptParams.search arguments with
  | false, .unknown position => .disallowed (.unknownParam position)
  | false, .clear => .exempt .paramsNotForbidden
  | _, _ =>
    if !r.paramsAnywhere.isEmpty && r.paramsAnywhere.allHold arguments then
      .exempt .paramsAllowedAnywhere
    else .disallowed .noExemption

/-- The decision where no value of `exceptParams` was passed. -/
def judgePlace (r : Rule) (call : CallSite) (file : String) : Exemption :=
  if anyCovers r.allowIn file then r.judgeAllowed call.arguments .allowedPath
  else if call.isCalledFrom r.allowInCallers then r.judgeAllowed call.arguments .allowedCaller
  else if !r.allowExceptIn.isEmpty then
    if anyCovers r.allowExceptIn file then .disallowed .disallowedPath
    else .exempt .outsideDisallowedPaths
  else if !r.allowExceptInCallers.isEmpty then
    if call.isCalledFrom r.allowExceptInCallers then .disallowed .disallowedCaller
    else .exempt .outsideDisallowedCallers
  else r.judgeArguments call.arguments

/-- The decision about a call in `file`. -/
def judge (r : Rule) (call : CallSite) (file : String) : Exemption :=
  match r.exceptParams.search call.arguments with
  | .hit position => .disallowed (.forbiddenParam position)
  | _ => r.judgePlace call file

/-- The decision about a call whose file is taken from the project root. -/
def judgeAt (r : Rule) (root : ProjectRoot) (call : CallSite) : Exemption :=
  r.judge call (root.resolve call.file).toString

end Rule

end CallPolicy
