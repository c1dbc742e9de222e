import BoxMin.Error
import BoxMin.Value.Extent

set_option autoImplicit false

namespace BoxMin

def Grid.column (name : String) (g : Grid Float) : Except Error (List Float) :=
  match g.shape with
  | [_] => .ok g.items
  | [_, 1] => .ok g.items
  | shape => .error (.notColumn name shape)

/-- The doubles of a value, which must find room in memory. -/
def Value.toDoubles (v : Value) : Except Fault (Grid Float) := do
  let g ← v.toGrid
  let _ ← checkExtent [g.items.length] ElementType.float64.bytes
  .ok g

def columnVector (name : String) (v : Value) : Except Error (List Float) := do
  (← orFault v.toDoubles).column name

def boundVectors (lower upper : Value) : Except Error (List Float × List Float) := do
  let lo ← columnVector "l" lower
  let hi ← columnVector "u" upper
  if lo.length = hi.length then .ok (lo, hi)
  else .error (.boundLengths lo.length hi.length)

def startVector (start : Value) (lower : List Float) : Except Error (List Float) := do
  let x ← columnVector "x0" start
  if x.length = lower.length then .ok x
  else .error (.startLength x.length lower.length)

def validateShapes (start lower upper : Value) :
    Except Error (List Float × List Float × List Float) := do
  let (lo, hi) ← boundVectors lower upper
  let x ← startVector start lo
  .ok (x, lo, hi)

end BoxMin
