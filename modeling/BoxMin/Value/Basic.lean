import BoxMin.Text.Numeral
import BoxMin.Value.Element

/-!
Values as callers hand them over: options, bounds, gradients and reasons may be of any kind, and
each reader decides which kinds it takes.
-/

set_option autoImplicit false

namespace BoxMin

/-- One item of an array, or one machine number. -/
inductive Scalar where
  | bool (b : Bool)
  | int (t : IntType) (k : Int)
  | float (t : FloatType) (x : Float)
  | text (s : String)
  | complex (t : FloatType) (re im : Float)

def volume : List Nat → Nat
  | [] => 1
  | n :: rest => n * volume rest

/-- Items in a shape, row by row, one in each place. -/
structure Grid (α : Type) where
  shape : List Nat
  items : List α
  fit : items.length = volume shape

structure NdArray extends Grid Scalar where
  element : ElementType

/-- A function the caller handed over, known by its number. The label is what it is shown as;
an anonymous one has no name of its own. -/
structure Callable where
  id : Nat
  label : String
  anonymous : Bool := false
  deriving DecidableEq, Repr

namespace Callable

def shown (c : Callable) : String := "<fn " ++ c.label ++ ">"

end Callable

inductive Value where
  | nothing
  | bool (b : Bool)
  | int (k : Int)
  | float (x : Float)
  | text (s : String)
  | bytes (bs : List UInt8)
  | list (vs : List Value)
  | tuple (vs : List Value)
  | mapping (entries : List (Value × Value))
  | ratio (r : Rat)
  | decimal (d : SignedDecimal)
  | complex (re im : Float)
  | scalar (s : Scalar)
  | array (a : NdArray)
  /-- A rectangular array of values, row by row. -/
  | cells (shape : List Nat) (items : Fin (volume shape) → Value)
  | callable (c : Callable)

/-- Why a value does not serve the purpose at hand. -/
inductive Fault where
  | wrongKind
  | unfit
  /-- It is too large for the numbers it should become. -/
  | overflow
  /-- There is no such item, key or attribute. -/
  | noItem
  | noKey
  | noAttribute
  /-- A decimal has no order, or no exact answer. -/
  | indeterminate
  /-- Its shape or kind does not go with another one. -/
  | incompatible
  | zeroDivisor
  | exhausted
  | unsupported
  deriving DecidableEq, Repr

namespace Scalar

def kindName : Scalar → String
  | .bool _ => "bool"
  | .int t _ => t.name
  | .float t _ => t.name
  | .text _ => "str_"
  | .complex t _ _ => t.complexName

def double (x : Float) : Scalar := .float .float64 x

end Scalar

def Value.ofScalar : Scalar → Value
  | .text s => .text s
  | s => .scalar s

theorem volume_axis (n : Nat) : volume [n] = n := Nat.mul_one n

theorem place_lt {n k : Nat} (i : Fin n) (j : Fin k) : i * k + j < n * k :=
  calc i * k + j < i * k + k := Nat.add_lt_add_left j.isLt _
    _ = (i + 1) * k := (Nat.succ_mul i k).symm
    _ ≤ n * k := Nat.mul_le_mul_right k i.isLt

namespace Grid

variable {α : Type} {n : Nat} {rest : List Nat}

def axis (items : List α) : Grid α := ⟨[items.length], items, (volume_axis _).symm⟩

def filled (shape : List Nat) (item : α) : Grid α :=
  ⟨shape, List.replicate (volume shape) item, List.length_replicate⟩

/-- The rows of a grid of more than one axis. -/
def rows (items : List α) (fit : items.length = volume (n :: rest)) : List (Grid α) :=
  List.ofFn fun i : Fin n =>
    ⟨rest, (items.drop (i * volume rest)).take (volume rest), by
      have hroom : i * volume rest + volume rest ≤ n * volume rest :=
        Nat.succ_mul i _ ▸ Nat.mul_le_mul_right _ i.isLt
      rw [List.length_take, List.length_drop, fit, volume]
      omega⟩

end Grid

namespace NdArray

def ofFloats (xs : List Float) : NdArray := ⟨.axis (xs.map .double), .float64⟩

def rows : NdArray → Option (List Value)
  | ⟨⟨[], _, _⟩, _⟩ => none
  | ⟨⟨[_], items, _⟩, _⟩ => some (items.map Value.ofScalar)
  | ⟨⟨_ :: _, items, fit⟩, element⟩ =>
    some ((Grid.rows items fit).map fun row => .array ⟨row, element⟩)

end NdArray

def Value.rowsOfCells : (shape : List Nat) → (Fin (volume shape) → Value) → Option (List Value)
  | [], _ => none
  | [_], items => some (List.ofFn items)
  | n :: rest, items =>
    some (List.ofFn fun i : Fin n => .cells rest fun j => items ⟨i * volume rest + j, place_lt i j⟩)

namespace Value

def kindName : Value → String
  | .nothing => "NoneType"
  | .bool _ => "bool"
  | .int _ => "int"
  | .float _ => "float"
  | .text _ => "str"
  | .bytes _ => "bytes"
  | .list _ => "list"
  | .tuple _ => "tuple"
  | .mapping _ => "dict"
  | .ratio _ => "Fraction"
  | .decimal _ => "Decimal"
  | .complex _ _ => "complex"
  | .scalar s => s.kindName
  | .array _ | .cells _ _ => "ndarray"
  | .callable _ => "function"

def isCallable : Value → Bool
  | .callable _ => true
  | _ => false

/-- How many places an array has; what is none stands in one. -/
def placeCount : Value → Nat
  | .array a => a.items.length
  | .cells shape _ => volume shape
  | _ => 1

def isNothing : Value → Bool
  | .nothing => true
  | _ => false

def ofFloats (xs : List Float) : Value := .array (.ofFloats xs)

end Value

end BoxMin
