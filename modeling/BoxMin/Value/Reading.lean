import BoxMin.Value.Exact

/-!
Readings of a value: as a double, as a whole number, as a count, as a truth value, as a sequence.
Each reading says which kinds it takes and why it refuses the others.
-/

set_option autoImplicit false

namespace BoxMin

def Rat.truncate (r : Rat) : Int := Int.tdiv r.num r.den

def ratFloat (r : Rat) : Except Fault Float :=
  match Rat.toFloat? r with
  | some x => .ok x
  | none => .error .overflow

def wholeOfFloat (x : Float) : Except Fault Int :=
  match Extended.ofFloat x with
  | .finite r => .ok (Rat.truncate r)
  | .remote _ _ | .infinite _ => .error .overflow
  | .undefined => .error .unfit

def isWholeFloat (x : Float) : Bool :=
  match Extended.ofFloat x with
  | .finite r => r.den == 1
  | .remote _ _ | .infinite _ | .undefined => false

namespace SignedDecimal

def toFloat : SignedDecimal → Except Fault Float
  | .finite negative d => .ok (d.toFloat negative)
  | .infinite negative => .ok (Datum.infinite negative).toFloat
  | .nan _ true _ => .error .unfit
  | .nan _ false _ => .ok Datum.nan.toFloat

/-- The whole part. A decimal with more zeros than are written out has none, or one too large. -/
def toWhole (d : SignedDecimal) : Except Fault Int :=
  match Extended.ofDecimal d with
  | .finite r => .ok (Rat.truncate r)
  | .remote _ d => if d.exponent < 0 then .ok 0 else .error .overflow
  | .infinite _ => .error .overflow
  | .undefined => .error .unfit

end SignedDecimal

def textToFloat (s : String) : Except Fault Float :=
  match Numeral.real? s with
  | some x => .ok x
  | none => .error .unfit

def textToWhole (s : String) : Except Fault Int :=
  match Numeral.whole? s with
  | some k => .ok k
  | none => .error .unfit

namespace Scalar

def toFloat : Scalar → Except Fault Float
  | .bool b => .ok (if b then 1.0 else 0.0)
  | .int _ k => ratFloat k
  | .float _ x => .ok x
  | .text s => textToFloat s
  | .complex _ re _ => .ok re

def toWhole : Scalar → Except Fault Int
  | .bool b => .ok (if b then 1 else 0)
  | .int _ k => .ok k
  | .float _ x => wholeOfFloat x
  | .text s => textToWhole s
  | .complex _ re _ => wholeOfFloat re

def truth : Scalar → Bool
  | .bool b => b
  | .int _ k => k ≠ 0
  | .float _ x => x != 0.0
  | .text s => !s.isEmpty
  | .complex _ re im => re != 0.0 || im != 0.0

def isReal : Scalar → Bool
  | .int _ _ | .float _ _ => true
  | _ => false

def isIntegral : Scalar → Bool
  | .int _ _ => true
  | _ => false

/-- Is a machine number at most zero? A text has no place among numbers; of a complex one, the
imaginary part decides if the real one does not. -/
def atMostZero : Scalar → Except Fault Bool
  | .bool b => .ok !b
  | .int _ k => .ok (k ≤ 0)
  | .float _ x => .ok (x ≤ 0.0)
  | .text _ => .error .wrongKind
  | .complex _ re im => .ok (re < 0.0 || (re == 0.0 && im ≤ 0.0))

end Scalar

namespace NdArray

def single? (a : NdArray) : Option Scalar :=
  match a.shape, a.items with
  | [], [s] => some s
  | _, _ => none

end NdArray

namespace Value

def isReal : Value → Bool
  | .bool _ | .int _ | .float _ | .ratio _ => true
  | .scalar s => s.isReal
  | _ => false

def isIntegral : Value → Bool
  | .bool _ | .int _ => true
  | .scalar s => s.isIntegral
  | _ => false

def toFloat : Value → Except Fault Float
  | .bool b => .ok (if b then 1.0 else 0.0)
  | .int k => ratFloat k
  | .float x => .ok x
  | .ratio r => ratFloat r
  | .decimal d => d.toFloat
  | .text s => textToFloat s
  | .bytes bs => match Numeral.bareReal? (Numeral.ofBytes bs) with
    | some x => .ok x
    | none => .error .unfit
  | .scalar s => s.toFloat
  | .array a => match a.single? with
    | some s => s.toFloat
    | none => .error .wrongKind
  | .cells [] items => (items ⟨0, Nat.one_pos⟩).toFloat
  | .cells _ _ | .nothing | .list _ | .tuple _ | .mapping _ | .complex _ _ | .callable _ =>
    .error .wrongKind

def toWhole : Value → Except Fault Int
  | .bool b => .ok (if b then 1 else 0)
  | .int k => .ok k
  | .float x => wholeOfFloat x
  | .ratio r => .ok (Rat.truncate r)
  | .decimal d => d.toWhole
  | .text s => textToWhole s
  | .bytes bs => match Numeral.bareWhole? (Numeral.ofBytes bs) with
    | some k => .ok k
    | none => .error .unfit
  | .scalar s => s.toWhole
  | .array a => match a.single? with
    | some s => s.toWhole
    | none => .error .wrongKind
  | .cells [] items => (items ⟨0, Nat.one_pos⟩).toWhole
  | .cells _ _ | .nothing | .list _ | .tuple _ | .mapping _ | .complex _ _ | .callable _ =>
    .error .wrongKind

/-- A number of things: whole-number kinds only, and no truth values. -/
def toCount : Value → Except Fault Int
  | .int k => .ok k
  | .scalar (.int _ k) => .ok k
  | .array a => match a.single? with
    | some (.int _ k) => .ok k
    | _ => .error .wrongKind
  | _ => .error .wrongKind

/-- Zero, nothing and what is empty are false; an array must have one item to be either. -/
def truth : Value → Except Fault Bool
  | .nothing => .ok false
  | .bool b => .ok b
  | .int k => .ok (k ≠ 0)
  | .float x => .ok (x != 0.0)
  | .text s => .ok !s.isEmpty
  | .bytes bs => .ok !bs.isEmpty
  | .list vs | .tuple vs => .ok !vs.isEmpty
  | .mapping es => .ok !es.isEmpty
  | .ratio r => .ok (r ≠ 0)
  | .decimal (.finite _ d) => .ok (d.coefficient ≠ 0)
  | .decimal _ => .ok true
  | .complex re im => .ok (re != 0.0 || im != 0.0)
  | .scalar s => .ok s.truth
  | .array a => match a.items with
    | [s] => .ok s.truth
    | _ => .error .unfit
  | .cells shape items =>
    if h : volume shape = 1 then (items ⟨0, h ▸ Nat.one_pos⟩).truth else .error .unfit
  | .callable _ => .ok true

/-- What a walk through the value meets: characters of a text, keys of a mapping, rows of an
array. -/
def items : Value → Except Fault (List Value)
  | .list vs | .tuple vs => .ok vs
  | .text s => .ok (s.toList.map fun c => .text (String.singleton c))
  | .bytes bs => .ok (bs.map fun b => .int b.toNat)
  | .mapping es => .ok (es.map (·.1))
  | .array a => match a.rows with
    | some vs => .ok vs
    | none => .error .wrongKind
  | .cells shape items => match rowsOfCells shape items with
    | some vs => .ok vs
    | none => .error .wrongKind
  | _ => .error .wrongKind

def length (v : Value) : Except Fault Nat :=
  v.items.map List.length

def pair (v : Value) : Except Fault (Value × Value) :=
  match v.items with
  | .ok [a, b] => .ok (a, b)
  | .ok _ => .error .unfit
  | .error e => .error e

def itemAt (v : Value) (i : Nat) : Except Fault Value :=
  match v with
  | .mapping es => match lookup? (.int i) es with
    | some w => .ok w
    | none => .error .noKey
  | .scalar _ | .cells [] _ => .error .noItem
  | .array a => match a.rows with
    | some vs => match vs[i]? with
      | some w => .ok w
      | none => .error .noItem
    | none => .error .noItem
  | v => do
    let vs ← v.items
    match vs[i]? with
    | some w => .ok w
    | none => .error .noItem

/-- Is a number at most zero? A NaN that is a double is not, one that is a decimal has no order. -/
def atMostZero : Value → Except Fault Bool
  | .bool b => .ok !b
  | .int k => .ok (k ≤ 0)
  | .float x => .ok (x ≤ 0.0)
  | .ratio r => .ok (r ≤ 0)
  | .decimal (.finite negative d) => .ok (negative || d.coefficient = 0)
  | .decimal (.infinite negative) => .ok negative
  | .decimal (.nan _ _ _) => .error .indeterminate
  | .scalar s => s.atMostZero
  | .array a => match a.items with
    | [s] => s.atMostZero
    | _ => .error .unfit
  | .cells shape items =>
    if h : volume shape = 1 then (items ⟨0, h ▸ Nat.one_pos⟩).atMostZero else .error .unfit
  | _ => .error .wrongKind

end Value

end BoxMin
