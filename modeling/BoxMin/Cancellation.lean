import BoxMin.Value.Basic

set_option autoImplicit false

namespace BoxMin

structure Cancellation where
  reason : Option Value := none

namespace Cancellation

def defaultReason : Value := .text "infeasible"

def isSet (c : Cancellation) : Bool := c.reason.isSome

def set (_ : Cancellation) (reason : Value) : Cancellation :=
  ⟨if reason.isNothing then none else some reason⟩

def clear (_ : Cancellation) : Cancellation := ⟨none⟩

/-- Sets with the arguments of a call: no argument gives the default reason, more than one is
refused. -/
def setWith (c : Cancellation) : List Value → Except Fault Cancellation
  | [] => .ok (c.set defaultReason)
  | [v] => .ok (c.set v)
  | _ => .error .wrongKind

end Cancellation

end BoxMin
