/-!
Binary floating formats. A finite number of a format is `± m * 2 ^ q`; its bits are read into the
natural number `m` and the exponent `q` once, and everything exact is done on those two.
-/

set_option autoImplicit false

namespace BoxMin

structure Format where
  precision : Nat
  minExp : Int
  maxExp : Int
  deriving DecidableEq, Repr

namespace Format

def binary64 : Format := ⟨53, -1074, 971⟩

def binary32 : Format := ⟨24, -149, 104⟩

def binary16 : Format := ⟨11, -24, 5⟩

end Format

inductive Datum where
  | finite (negative : Bool) (m : Nat) (q : Int)
  | infinite (negative : Bool)
  | nan
  deriving DecidableEq, Repr

def magnitude (m : Nat) (q : Int) : Nat × Nat :=
  (m * Nat.pow 2 q.toNat, Nat.pow 2 (-q).toNat)

namespace Datum

def ofBits (bits : Nat) : Datum :=
  let negative := bits / Nat.pow 2 63 % 2 == 1
  let exponent : Nat := bits / Nat.pow 2 52 % Nat.pow 2 11
  let fraction : Nat := bits % Nat.pow 2 52
  if exponent = 2047 then if fraction = 0 then .infinite negative else .nan
  else if exponent = 0 then .finite negative fraction (-1074)
  else .finite negative (Nat.pow 2 52 + fraction) ((exponent : Int) - 1075)

def ofFloat (x : Float) : Datum :=
  ofBits x.toBits.toNat

/-- Expects a significand of at most 53 bits that has its leading bit unless `q` is smallest. -/
def toBits : Datum → Nat
  | .nan => 2047 * Nat.pow 2 52 + Nat.pow 2 51
  | .infinite negative => negative.toNat * Nat.pow 2 63 + 2047 * Nat.pow 2 52
  | .finite negative m q =>
    negative.toNat * Nat.pow 2 63 + if m < Nat.pow 2 52 then m else (q + 1074).toNat * Nat.pow 2 52 + m

def toFloat (d : Datum) : Float :=
  Float.ofBits (UInt64.ofNat d.toBits)

def rational? : Datum → Option Rat
  | .finite negative m q =>
    let magnitude : Rat := if 0 ≤ q then (m * Nat.pow 2 q.toNat : Nat) else mkRat m (Nat.pow 2 (-q).toNat)
    some (if negative then -magnitude else magnitude)
  | _ => none

end Datum

end BoxMin
