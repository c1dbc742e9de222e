import BoxMin.Decimal.Shortest

set_option autoImplicit false

namespace BoxMin

/-- Exponents of the leading digit from `from` up to but not `below` are written positionally;
`pointZero` says whether a whole number then ends in `.0`. -/
structure Layout where
  lowest : Int
  below : Int
  pointZero : Bool
  deriving DecidableEq, Repr

namespace Layout

def readBack : Layout := ⟨-4, 16, true⟩

def bare : Layout := ⟨-4, 16, false⟩

def exponentText (e : Int) : String :=
  let digits := toString e.natAbs
  (if e < 0 then "e-" else "e+") ++ (if digits.length < 2 then "0" ++ digits else digits)

def parts (digits : List Char) (places : Int) : List Char × List Char :=
  if places ≤ 0 then (['0'], List.replicate (-places).toNat '0' ++ digits)
  else
    let whole := digits.take places.toNat
    (whole ++ List.replicate (places.toNat - whole.length) '0', digits.drop places.toNat)

def positional (digits : List Char) (places : Int) (pointZero : Bool) : String :=
  let (whole, fraction) := parts digits places
  String.ofList whole ++
    (if fraction.isEmpty then if pointZero then ".0" else ""
     else "." ++ String.ofList fraction)

def exponential (digits : List Char) (e : Int) : String :=
  let rest := digits.drop 1
  String.ofList (digits.take 1) ++ (if rest.isEmpty then "" else "." ++ String.ofList rest) ++
    exponentText e

def fits (layout : Layout) (e : Int) : Bool := layout.lowest ≤ e && e < layout.below

def write (layout : Layout) (positionally : Bool) (d : Decimal) : String :=
  if positionally then positional d.digits (d.leading + 1) layout.pointZero
  else exponential d.digits d.leading

def render (layout : Layout) (d : Decimal) : String :=
  layout.write (layout.fits d.leading) d

end Layout

def signText (negative : Bool) : String := if negative then "-" else ""

def Layout.float (layout : Layout) (x : Float) : String :=
  match Datum.ofFloat x with
  | .nan => "nan"
  | .infinite negative => signText negative ++ "inf"
  | .finite negative m q => signText negative ++ layout.render (Format.binary64.shortest m q)

def floatText (x : Float) : String := Layout.readBack.float x

/-- The shortest digits that read back as the number of a narrower format, which is held in a double.
The size of the number itself decides how it is written; its digits may round up to the next one. -/
def Layout.narrow (layout : Layout) (fmt : Format) (x : Float) : String :=
  match Datum.ofFloat x with
  | .nan => "nan"
  | .infinite negative => signText negative ++ "inf"
  | .finite negative m q =>
    let (num, den) := magnitude m q
    let e := if m = 0 then 0 else Decimal.leadingExponent num den
    match fmt.round? num den with
    | some (m, q) => signText negative ++ layout.write (layout.fits e) (fmt.shortest m q)
    | none => signText negative ++ "inf"

end BoxMin
