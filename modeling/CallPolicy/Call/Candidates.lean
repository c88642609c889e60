import CallPolicy.Call.Site

namespace CallPolicy

/-!
# Candidates

A call is checked under every name that its member is declared under.

* `distinctBy` — the first of the items that share a key.
* `CallSite.candidates` — the names of a call, its owner first.
* `aliasNote?` — what a message adds when the code uses another name than the one it is about.
-/

/-- The items whose key is neither in `seen` nor the key of an item before them. -/
def distinctFrom {α κ : Type} [BEq κ] (key : α → κ) (seen : List κ) : List α → List α
  | [] => []
  | x :: rest =>
    if seen.contains (key x) then distinctFrom key seen rest
    else x :: distinctFrom key (key x :: seen) rest

/-- The first item of each key, in order. -/
def distinctBy {α κ : Type} [BEq κ] (key : α → κ) (items : List α) : List α :=
  distinctFrom key [] items

def CallSite.candidates (c : CallSite) : List Symbol :=
  distinctBy (·.key) (c.declaring :: c.alsoDeclaredIn)

def aliasNote? (invoked candidate : Symbol) : Option String :=
  if invoked.same candidate then none else some s!"(as {invoked.displayCall})"

end CallPolicy
