import BoxMin.Bounds
import BoxMin.Task.Field
import BoxMin.Workspace

set_option autoImplicit false

namespace BoxMin

/-- What a solver is told with each call and cannot change. -/
structure Query where
  m : Int
  lower : List Float
  upper : List Float
  kinds : List BoundKind
  f : Float
  factr : Float
  pgtol : Float

structure Buffers (n : Nat) where
  x : Vector Float n
  g : Vector Float n
  workspace : Workspace

structure Solver (σ : Type) where
  /-- Work areas for so many variables and corrections. -/
  allocate : Nat → Operand → σ → σ × Except Error Workspace
  step : {n : Nat} → Query → Buffers n → σ → Buffers n × σ × Except Error Reply
  /-- A second text a solver keeps about its state. Asking for it may fail. -/
  message : Workspace → σ → Except Error String

end BoxMin
