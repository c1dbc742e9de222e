import BoxMin.Decimal.Shortest
import BoxMin.Text.Blank
import BoxMin.Text.Digit

set_option autoImplicit false

namespace BoxMin

namespace Decimal

/-- The double nearest to a decimal. Exponents far outside the range of doubles are decided by the
count of digits alone. -/
def toFloat (negative : Bool) (d : Decimal) : Float :=
  let size : Int := (toString d.coefficient).length + d.exponent
  if d.coefficient = 0 || size < -400 then nearestFloat negative 0 1
  else if 400 < size then (Datum.infinite negative).toFloat
  else nearestFloat negative (d.coefficient * powTen d.exponent) (powTen (-d.exponent))

def exact (d : Decimal) : Rat :=
  mkRat (d.coefficient * powTen d.exponent) (powTen (-d.exponent))

end Decimal

namespace Numeral

def plainDigits (cs : List Char) : List Char :=
  cs.map fun c =>
    if c.toNat < 0x80 then c
    else match decimalDigit? c with
      | some d => Char.ofNat (48 + d)
      | none => c

/-- Drops the underscores if each stands between two digits. -/
def dropUnderscores? : Option Char → List Char → Option (List Char)
  | _, [] => some []
  | before, '_' :: rest =>
    match before, rest with
    | some b, c :: _ => if b.isDigit && c.isDigit then dropUnderscores? (some '_') rest else none
    | _, _ => none
  | _, c :: rest => (dropUnderscores? (some c) rest).map (c :: ·)

def splitSign : List Char → Bool × List Char
  | '-' :: cs => (true, cs)
  | '+' :: cs => (false, cs)
  | cs => (false, cs)

def lowered (cs : List Char) : String := String.ofList (cs.map Char.toLower)

def digitsValue (cs : List Char) : Nat :=
  cs.foldl (fun n c => 10 * n + (c.toNat - 48)) 0

def digitsValue? (cs : List Char) : Option Nat :=
  if cs.isEmpty || !cs.all Char.isDigit then none else some (digitsValue cs)

def exponent? : List Char → Option Int
  | [] => some 0
  | c :: cs =>
    if c = 'e' || c = 'E' then
      let (negative, digits) := splitSign cs
      (digitsValue? digits).map fun n => if negative then -(n : Int) else n
    else none

def decimal? (cs : List Char) : Option Decimal :=
  let whole := cs.takeWhile Char.isDigit
  let rest := cs.dropWhile Char.isDigit
  let (fraction, rest) := match rest with
    | '.' :: rest => (rest.takeWhile Char.isDigit, rest.dropWhile Char.isDigit)
    | rest => ([], rest)
  if whole.isEmpty && fraction.isEmpty then none
  else (exponent? rest).map fun e => ⟨digitsValue (whole ++ fraction), e - fraction.length⟩

def bareReal? (cs : List Char) : Option Float :=
  (dropUnderscores? none cs).bind fun cs =>
    let (negative, body) := splitSign cs
    if lowered body = "inf" || lowered body = "infinity" then
      some (Datum.infinite negative).toFloat
    else if lowered body = "nan" then some Datum.nan.toFloat
    else (decimal? body).map (Decimal.toFloat negative)

def real? (s : String) : Option Float :=
  bareReal? (trimBoth isBlank (plainDigits s.toList))

def wholeDigitLimit : Nat := 4300

def bareWhole? (cs : List Char) : Option Int :=
  (dropUnderscores? none cs).bind fun cs =>
    let (negative, digits) := splitSign cs
    if wholeDigitLimit < digits.length then none
    else (digitsValue? digits).map fun n => if negative then -(n : Int) else n

def whole? (s : String) : Option Int :=
  bareWhole? (trimBoth isBlank (plainDigits s.toList))

/-- Bytes are read as ASCII; a byte beyond it is no part of a numeral. -/
def ofBytes (bs : List UInt8) : List Char :=
  trimBoth isAsciiBlank (bs.map fun b => Char.ofNat b.toNat)

end Numeral

inductive SignedDecimal where
  | finite (negative : Bool) (d : Decimal)
  | infinite (negative : Bool)
  | nan (negative signaling : Bool) (payload : Nat)
  deriving DecidableEq, Repr

namespace SignedDecimal

def nanBody? (negative : Bool) (cs : List Char) : Option SignedDecimal :=
  let (signaling, cs) := match cs with
    | 's' :: cs => (true, cs)
    | cs => (false, cs)
  match cs with
  | 'n' :: 'a' :: 'n' :: digits =>
    if digits.isEmpty then some (.nan negative signaling 0)
    else (Numeral.digitsValue? digits).map (.nan negative signaling)
  | _ => none

def inRange (d : Decimal) : Bool :=
  -1999999999999999997 ≤ d.exponent && d.leading ≤ 999999999999999999

/-- Spaces at the ends are dropped, and underscores are skipped wherever they stand. -/
def ofText? (s : String) : Option SignedDecimal :=
  let cs := (trimBoth isSpace (Numeral.plainDigits s.toList)).filter (· ≠ '_')
  let (negative, body) := Numeral.splitSign cs
  let low := (Numeral.lowered body)
  if low = "inf" || low = "infinity" then some (.infinite negative)
  else match nanBody? negative low.toList with
    | some d => some d
    | none => ((Numeral.decimal? body).filter inRange).map (.finite negative)

/-- Positional while the exponent is not positive and the number not below a millionth. -/
def text : SignedDecimal → String
  | .infinite negative => (if negative then "-" else "") ++ "Infinity"
  | .nan negative signaling payload =>
    (if negative then "-" else "") ++ (if signaling then "sNaN" else "NaN") ++
      if payload = 0 then "" else toString payload
  | .finite negative d =>
    let digits := (toString d.coefficient).toList
    let adjusted := d.exponent + digits.length - 1
    (if negative then "-" else "") ++
      if d.exponent ≤ 0 ∧ -6 ≤ adjusted then
        let places := digits.length + d.exponent
        if d.exponent = 0 then String.ofList digits
        else if places ≤ 0 then
          "0." ++ String.ofList (List.replicate (-places).toNat '0' ++ digits)
        else
          String.ofList (digits.take places.toNat) ++ "." ++
            String.ofList (digits.drop places.toNat)
      else
        let rest := digits.drop 1
        String.ofList (digits.take 1) ++ (if rest.isEmpty then "" else "." ++ String.ofList rest) ++
          "E" ++ (if adjusted < 0 then "-" else "+") ++ toString adjusted.natAbs

end SignedDecimal

end BoxMin
