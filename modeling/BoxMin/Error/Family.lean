import BoxMin.Options.Check

set_option autoImplicit false

namespace BoxMin

inductive ErrorFamily where
  | base
  | dimensionMismatch
  | invalidOption
  | unrecognizedOption
  | invalidBounds
  | callbackFailure
  | infeasible
  deriving DecidableEq, Repr

structure MadeError where
  family : ErrorFamily
  text : String
  attributes : List (String × Value) := []

namespace ErrorFamily

def all : List ErrorFamily :=
  [.base, .dimensionMismatch, .invalidOption, .unrecognizedOption, .invalidBounds,
    .callbackFailure, .infeasible]

def name : ErrorFamily → String
  | .base => "LbfgsbError"
  | .dimensionMismatch => "DimensionMismatch"
  | .invalidOption => "InvalidOption"
  | .unrecognizedOption => "UnrecognizedOption"
  | .invalidBounds => "InvalidBounds"
  | .callbackFailure => "CallbackFailure"
  | .infeasible => "Infeasible"

def ofName? (s : String) : Option ErrorFamily :=
  all.find? fun f => f.name = s

/-- Makes an error from arguments; a wrong number or kind of them is refused. -/
def make (f : ErrorFamily) (args : List Value) : Except Fault MadeError :=
  match f, args with
  | .invalidOption, [key, value, reason] =>
    if [key, value, reason].all Value.isWritable then
      .ok ⟨f, Error.invalidOptionText key.quoted value.quoted reason.formatted,
        [("key", key), ("value", value)]⟩
    else .error .unfit
  | .unrecognizedOption, [keys] => do
    let keys ← sortedKeys (← keys.items)
    .ok ⟨f, Error.unrecognizedText keys, [("keys", .tuple (keys.map .text))]⟩
  | .callbackFailure, [callback, iteration] =>
    if [callback, iteration].all Value.isWritable then
      .ok ⟨f, Error.callbackText callback.calledName iteration.formatted,
        [("callback", callback), ("iteration", iteration)]⟩
    else .error .unfit
  | .invalidOption, _ | .unrecognizedOption, _ | .callbackFailure, _ => .error .wrongKind
  | _, args => do .ok ⟨f, ← Value.argumentsText args, []⟩

end ErrorFamily

end BoxMin
