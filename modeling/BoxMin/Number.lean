import BoxMin.Value.Reading

set_option autoImplicit false

namespace BoxMin

/-- The least whole number that a floating type does not bring below a positive number of its
own. -/
def FloatType.threshold (t : FloatType) (r : Rat) : Int :=
  match t.format.round? r.num.natAbs r.den with
  | some (m, q) =>
    let i := t.format.roundingInterval m q
    let low := i.low / i.den
    if i.closed && low * i.den = i.low then low else low + 1
  | none => r.ceil

inductive Number where
  | whole (k : Int)
  | sized (t : IntType) (k : Int)
  | real (x : Extended)
  /-- Floating numbers of a type of their own. -/
  | floating (t : FloatType) (x : Extended)
  | decimal (x : Extended)

namespace Number

def ofScalar : Scalar → Except Fault Number
  | .bool b => .ok (.sized .int64 (if b then 1 else 0))
  | .int t k => .ok (.sized t k)
  | .float t x => .ok (.floating t (.ofFloat x))
  | .text _ | .complex _ _ _ => .error .wrongKind

/-- The number a value can be compared as. A decimal that is no number has no order; of an array,
the one item counts. -/
def ofValue : Value → Except Fault Number
  | .bool b => .ok (.whole (if b then 1 else 0))
  | .int k => .ok (.whole k)
  | .float x => .ok (.real (.ofFloat x))
  | .ratio r => .ok (.real (.finite r))
  | .decimal (.nan _ _ _) => .error .indeterminate
  | .decimal d => .ok (.decimal (.ofDecimal d))
  | .scalar s => ofScalar s
  | .array a => match a.items with
    | [s] => ofScalar s
    | _ => .error .unfit
  | _ => .error .wrongKind

def point : Number → Extended
  | .whole k | .sized _ k => .finite k
  | .real x | .floating _ x | .decimal x => x

/-- More counts than a run gets to. -/
def endless : Nat := Nat.pow 2 64

def room (limit : Number) (k : Nat) : Nat :=
  match limit with
  | .whole l | .sized _ l => (l - k).toNat
  | .floating t (.finite r) => if r ≤ 0 then 0 else (t.threshold r - k).toNat
  | limit => match limit.point with
    | .finite r => (r.ceil - k).toNat
    | .remote negative d =>
      if negative then 0 else if 0 < d.exponent then endless else 1 - k
    | .infinite negative => if negative then 0 else endless
    | .undefined => 0

@[simp] theorem room_whole (l : Int) (k : Nat) : (whole l).room k = (l - k).toNat := rfl

def quotientDigits : Nat := 28

def isMultiple (a b : Rat) : Bool := (a / b).den == 1

/-- Is the `k`-th of something due, every so many times? Nothing is due at a cadence that is not
positive. -/
def due (cadence : Number) (k : Nat) : Except Fault Bool :=
  match cadence with
  | .whole p => .ok (0 < p && (k : Int) % p == 0)
  | .sized t p =>
    if p ≤ 0 then .ok false
    else if t.holds k then .ok ((k : Int) % p == 0) else .error .overflow
  | .real (.finite r) => .ok (0 < r && isMultiple k r)
  | .floating t (.finite r) => match Extended.ofFloat (t.ofInt k) with
    | .finite k => .ok (0 < r && isMultiple k r)
    | _ => .ok false
  | .decimal (.finite r) =>
    if r ≤ 0 then .ok false
    else if Nat.pow 10 quotientDigits ≤ ((k : Rat) / r).floor then .error .indeterminate
    else .ok (isMultiple k r)
  | .decimal (.remote false d) =>
    if d.exponent < 0 && k ≠ 0 then .error .indeterminate else .ok (k == 0)
  | _ => .ok false

@[simp] theorem due_whole (p : Int) (k : Nat) :
    (whole p).due k = .ok (0 < p && (k : Int) % p == 0) := rfl

def wholePart (x : Number) : Int :=
  match x.point with
  | .finite r => Rat.truncate r
  | _ => 0

@[simp] theorem wholePart_whole (k : Int) : (whole k).wholePart = k := by
  simp [wholePart, point, Rat.truncate]

end Number

end BoxMin
