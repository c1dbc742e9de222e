import BoxMin.Binary.Rounding

/-!
The shortest decimal that reads back as a given binary number. Of the decimals with the fewest
digits that lie in the interval rounding to the number, it is the nearest one.
-/

set_option autoImplicit false

namespace BoxMin

structure Decimal where
  coefficient : Nat
  exponent : Int
  deriving DecidableEq, Repr

namespace Decimal

def powTen (e : Int) : Nat := Nat.pow 10 e.toNat

def scaled (num den : Nat) (e : Int) : Nat × Nat :=
  (num * powTen (-e), den * powTen e)

/-- The largest `e` with `10 ^ e ≤ num / den`; the logarithms to base two are off by one at most. -/
def leadingExponent (num den : Nat) : Int :=
  let guess := ((num.log2 : Int) - den.log2 - 1) * 30103 / 100000 - 1
  let reaches (e : Int) : Bool :=
    let (a, b) := scaled num den e
    b ≤ a
  if reaches (guess + 3) then guess + 3
  else if reaches (guess + 2) then guess + 2
  else if reaches (guess + 1) then guess + 1
  else guess

def digits (d : Decimal) : List Char := (toString d.coefficient).toList

def leading (d : Decimal) : Int := d.exponent + d.digits.length - 1

def stripZeros : Nat → Decimal → Decimal
  | 0, d => d
  | fuel + 1, d =>
    if d.coefficient % 10 = 0 ∧ d.coefficient ≠ 0 then
      stripZeros fuel ⟨d.coefficient / 10, d.exponent + 1⟩
    else d

/-- The decimal `d` of `num / den`, or `num / den` rounded to the place of `10 ^ e` if `d` goes
further. -/
def cut (d : Decimal) (num den : Nat) (e : Int) : Decimal :=
  if d.exponent < e then
    let (a, b) := scaled num den e
    stripZeros d.digits.length ⟨roundDiv a b, e⟩
  else d

/-- The reals between `low / den` and `high / den`, with or without the ends, around `mid / den`. -/
structure Interval where
  low : Nat
  mid : Nat
  high : Nat
  den : Nat
  closed : Bool
  deriving DecidableEq, Repr

def Interval.holds (i : Interval) (c : Nat) (e : Int) : Bool :=
  let point := c * i.den * powTen e
  let low := i.low * powTen (-e)
  let high := i.high * powTen (-e)
  if i.closed then low ≤ point && point ≤ high else low < point && point < high

def Interval.onGrid? (i : Interval) (e : Int) : Option Nat :=
  let (a, b) := scaled i.mid i.den e
  let below := a / b
  match i.holds below e, i.holds (below + 1) e with
  | true, true => some (roundDiv a b)
  | true, false => some below
  | false, true => some (below + 1)
  | false, false => none

def Interval.coarsest : Nat → Interval → Int → Decimal
  | 0, i, e => ⟨(let (a, b) := scaled i.mid i.den e; roundDiv a b), e⟩
  | fuel + 1, i, e =>
    match i.onGrid? e with
    | some c => ⟨c, e⟩
    | none => i.coarsest fuel (e - 1)

end Decimal

/-- The reals that round to `m * 2 ^ q`. Below a power of two the gap is half as wide. -/
def Format.roundingInterval (fmt : Format) (m : Nat) (q : Int) : Decimal.Interval :=
  let down := if m = Nat.pow 2 (fmt.precision - 1) ∧ fmt.minExp < q then 1 else 2
  let scale := Nat.pow 2 (q - 2).toNat
  ⟨(4 * m - down) * scale, 4 * m * scale, (4 * m + 2) * scale, Nat.pow 2 (2 - q).toNat, m % 2 == 0⟩

def Format.shortest (fmt : Format) (m : Nat) (q : Int) : Decimal :=
  if m = 0 then ⟨0, 0⟩
  else
    let i := fmt.roundingInterval m q
    (i.coarsest 17 (Decimal.leadingExponent i.mid i.den)).stripZeros 20

end BoxMin
