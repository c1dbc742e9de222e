import BoxMin.Value.Printed

set_option autoImplicit false

namespace BoxMin

inductive Signal where
  /-- The evaluator declares the point infeasible, for the reasons given. -/
  | infeasible (reasons : List Value)
  /-- The user interrupts; nothing may take this for a failed call. -/
  | interrupt
  /-- Any other failure, by the caller's name for it. -/
  | failure (name : String)

inductive OptionRule where
  | whole
  | real
  | atLeast (minimum : Nat)
  | atLeastReal (minimum : Float)
  | callableEntries
  | callables

namespace OptionRule

def text : OptionRule → String
  | .whole => "expected an integer"
  | .real => "expected a real number"
  | .atLeast k => "must be >= " ++ toString k
  | .atLeastReal x => "must be >= " ++ floatText x
  | .callableEntries => "entries must be callable"
  | .callables => "expected a callable or a sequence of callables"

end OptionRule

inductive Error where
  | fault (f : Fault)
  | signal (s : Signal)
  | notColumn (name : String) (shape : List Nat)
  | boundLengths (lower upper : Nat)
  | startLength (start lower : Nat)
  | gradientLength (got expected : Nat)
  | crossedBounds (indices : List Nat)
  | invalidOption (key : String) (value : Value) (rule : OptionRule)
  | unrecognizedOptions (keys : List String)
  /-- A diagnostic failed, or its value is no double. -/
  | callbackFailed (callback : Value) (iteration : Nat) (cause : Error)
  | historyFull (capacity : Nat)
  | rowWidth (expected got : Nat)
  | notCallablePair
  | notEvaluator (kindName : String)
  | notScalar (shape : List Nat)
  | lineSearchLimit

namespace Error

def isInterrupt : Error → Bool
  | .signal .interrupt => true
  | _ => false

def invalidOptionText (key value reason : String) : String :=
  "Invalid value for option " ++ key ++ ": " ++ value ++ " (" ++ reason ++ ")"

def unrecognizedText (keys : List String) : String :=
  "Unrecognized option(s): " ++ joinWith ", " keys

def callbackText (name iteration : String) : String :=
  "Diagnostic callback " ++ name ++ " failed at iteration " ++ iteration

def message : Error → Option String
  | .fault _ | .signal _ => none
  | .notColumn name shape => some (name ++ " must be a column vector, got shape " ++ shapeText shape)
  | .boundLengths a b => some s!"l and u must be the same length, got {a} and {b}"
  | .startLength a b => some s!"x0 and l have mismatched sizes, got {a} and {b}"
  | .gradientLength a b => some s!"gradient has {a} entries, expected {b}"
  | .crossedBounds is =>
    some ("lower bound exceeds upper bound at indices [" ++ joinWith ", " (is.map toString) ++ "]")
  | .invalidOption key value rule => some (invalidOptionText (quoteText key) value.quoted rule.text)
  | .unrecognizedOptions keys => some (unrecognizedText keys)
  | .callbackFailed callback iteration _ =>
    some (callbackText callback.calledName (toString iteration))
  | .historyFull capacity => some s!"history is full ({capacity} rows)"
  | .rowWidth a b => some s!"expected a row of width {a}, got {b}"
  | .notCallablePair => some "expected a (fun, grad) pair of callables"
  | .notEvaluator name =>
    some ("expected a callable or a (fun, grad) pair, got " ++ name)
  | .notScalar shape => some ("objective must return a scalar, got shape " ++ shapeText shape)
  | .lineSearchLimit => some "maxls must be positive."

end Error

def orFault {α : Type} : Except Fault α → Except Error α
  | .ok a => .ok a
  | .error f => .error (.fault f)

@[simp] theorem orFault_ok {α : Type} (a : α) : orFault (.ok a) = .ok a := rfl

@[simp] theorem orFault_error {α : Type} (f : Fault) :
    orFault (.error f : Except Fault α) = .error (.fault f) := rfl

end BoxMin
