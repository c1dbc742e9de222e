import BoxMin.Binary.Format

set_option autoImplicit false

namespace BoxMin

/-- The nearest natural number to `num / den`; a half goes to the even neighbour. -/
def roundDiv (num den : Nat) : Nat :=
  let quotient := num / den
  let twice := 2 * (num % den)
  if twice < den then quotient
  else if den < twice then quotient + 1
  else quotient + quotient % 2

theorem div_le_roundDiv (num den : Nat) : num / den ≤ roundDiv num den := by
  simp only [roundDiv]; split <;> (try split) <;> omega

theorem roundDiv_le (num den : Nat) : roundDiv num den ≤ num / den + 1 := by
  simp only [roundDiv]; split <;> (try split) <;> omega

namespace Format

/-- `num / den` measured in units of `2 ^ q`, as a quotient. -/
def scaled (num den : Nat) (q : Int) : Nat × Nat :=
  if 0 ≤ q then (num, den * Nat.pow 2 q.toNat) else (num * Nat.pow 2 (-q).toNat, den)

/-- The exponent at which `num / den` fills the significand, but none below the smallest. -/
def unitExponent (fmt : Format) (num den : Nat) : Int :=
  let guess := max fmt.minExp ((num.log2 : Int) - den.log2 - fmt.precision)
  let (a, b) := scaled num den guess
  if a / b < Nat.pow 2 fmt.precision then guess else guess + 1

/-- The number of the format nearest to `num / den`, or none beyond the largest one. -/
def round? (fmt : Format) (num den : Nat) : Option (Nat × Int) :=
  let q := fmt.unitExponent num den
  let (a, b) := scaled num den q
  let m := roundDiv a b
  let (m, q) := if m < Nat.pow 2 fmt.precision then (m, q) else (Nat.pow 2 (fmt.precision - 1), q + 1)
  if q ≤ fmt.maxExp then some (m, q) else none

end Format

def nearestFloat? (negative : Bool) (num den : Nat) : Option Float :=
  (Format.binary64.round? num den).map fun (m, q) => (Datum.finite negative m q).toFloat

def nearestFloat (negative : Bool) (num den : Nat) : Float :=
  (nearestFloat? negative num den).getD (Datum.infinite negative).toFloat

def Rat.toFloat? (r : Rat) : Option Float :=
  nearestFloat? (decide (r < 0)) r.num.natAbs r.den

def Format.nearest (fmt : Format) (negative : Bool) (num den : Nat) : Float :=
  match fmt.round? num den with
  | some (m, q) =>
    let (num, den) := magnitude m q
    nearestFloat negative num den
  | none => (Datum.infinite negative).toFloat

def Format.roundFloat (fmt : Format) (x : Float) : Float :=
  match Datum.ofFloat x with
  | .finite negative m q =>
    let (num, den) := magnitude m q
    fmt.nearest negative num den
  | _ => x

def Format.ofInt (fmt : Format) (k : Int) : Float :=
  fmt.nearest (decide (k < 0)) k.natAbs 1

end BoxMin
