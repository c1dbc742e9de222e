import BoxMin.Decimal.Layout

set_option autoImplicit false

namespace BoxMin

def significant (digits num den : Nat) : Nat × Int :=
  if num = 0 then (0, 0)
  else
    let e := Decimal.leadingExponent num den
    let (a, b) := Decimal.scaled num den (e - digits + 1)
    let c := roundDiv a b
    if c < Nat.pow 10 digits then (c, e) else (c / 10, e + 1)

def leadingZeros (count n : Nat) : List Char :=
  let digits := (toString n).toList
  List.replicate (count - digits.length) '0' ++ digits

def finalZeros (count n : Nat) : List Char :=
  let digits := (toString n).toList
  digits ++ List.replicate (count - digits.length) '0'

def pointed (point : Bool) (digits : List Char) (places : Int) : String :=
  let (whole, fraction) := Layout.parts digits places
  String.ofList whole ++
    (if fraction.isEmpty then if point then "." else "" else "." ++ String.ofList fraction)

def fixedText (point : Bool) (places num den : Nat) : String :=
  let digits := leadingZeros (places + 1) (roundDiv (num * Nat.pow 10 places) den)
  pointed point digits (digits.length - places : Nat)

def scientificText (point : Bool) (places num den : Nat) : String :=
  let (c, e) := significant (places + 1) num den
  pointed point (finalZeros (places + 1) c) 1 ++ Layout.exponentText e

/-- A quotient with so many significant digits, with an exponent only where it is needed. Final
zeros are dropped unless the point is asked for. -/
def generalText (point : Bool) (digits num den : Nat) : String :=
  let (c, e) := significant digits num den
  let layout : Layout := { Layout.bare with below := digits }
  if point then
    let all := finalZeros digits c
    if layout.fits e then pointed true all (e + 1)
    else pointed true all 1 ++ Layout.exponentText e
  else
    layout.render (if c = 0 then ⟨0, 0⟩ else Decimal.stripZeros digits ⟨c, e - digits + 1⟩)

def signedText (write : Nat → Nat → String) (x : Float) : String :=
  match Datum.ofFloat x with
  | .nan => "nan"
  | .infinite negative => signText negative ++ "inf"
  | .finite negative m q =>
    let (num, den) := magnitude m q
    signText negative ++ write num den

def scientific (places : Nat) (x : Float) : String := signedText (scientificText false places) x

def general (x : Float) : String := signedText (generalText false 6) x

end BoxMin
