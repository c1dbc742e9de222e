import BoxMin.Value.Printed
import BoxMin.Value.Reading

set_option autoImplicit false

namespace BoxMin

namespace IntType

def word (t : IntType) : IntType :=
  if t.bits < 32 || t = .int32 then .int32 else .int64

/-- A whole part that a word does not hold leaves its least number there. -/
def intoWord (t : IntType) (whole : Except Fault Int) : Int :=
  match whole with
  | .ok k => if t.word.holds k then k else t.word.least
  | .error _ => t.word.least

/-- A floating number cast to whole numbers of the type. The widest unsigned type has one bit more
than a word; numbers from that bit on are cast without it, and it is turned over afterwards. -/
def ofFloat (t : IntType) (x : Float) : Int :=
  if t = .uint64 && 9223372036854775808.0 ≤ x then
    t.wrap (t.intoWord ((wholeOfFloat x).map (· - Nat.pow 2 63)) + Nat.pow 2 63)
  else t.wrap (t.intoWord (wholeOfFloat x))

/-- A whole number read from a value that is no whole number itself: it must fit into a word, or
into the type if that is a wide unsigned one; then its low bits are kept. -/
def ofWhole (t : IntType) (k : Int) : Except Fault Int :=
  let wide := !t.signed && 32 ≤ t.bits
  if IntType.int64.holds k || (wide && IntType.uint64.holds k) then .ok (t.wrap k)
  else .error .overflow

def ofExact (t : IntType) (k : Int) : Except Fault Int :=
  if t.holds k then .ok k else .error .overflow

end IntType

/-- A text as an element: NULs at its end do not count. -/
def elementText (s : String) : String :=
  String.ofList (trimEnd (· = Char.ofNat 0) s.toList)

namespace Scalar

/-- A machine number as a floating one of the given type; of a complex one, the real part. -/
def toPart (t : FloatType) (s : Scalar) : Except Fault Float :=
  match s with
  | .bool b => .ok (if b then 1.0 else 0.0)
  | .int _ k => .ok (t.ofInt k)
  | .float _ x | .complex _ x _ => .ok (t.round x)
  | .text s => (textToFloat s).map t.round

def cast (t : ElementType) (s : Scalar) : Except Fault Scalar :=
  match t with
  | .bool => .ok (.bool s.truth)
  | .int t => match s with
    | .bool b => .ok (.int t (if b then 1 else 0))
    | .int _ k => .ok (.int t (t.wrap k))
    | .float _ x | .complex _ x _ => .ok (.int t (t.ofFloat x))
    | .text s => do .ok (.int t (← t.ofExact (← textToWhole s)))
  | .float t => (s.toPart t).map (.float t)
  | .complex t => match s with
    | .complex _ re im => .ok (.complex t (t.round re) (t.round im))
    | s => (s.toPart t).map (.complex t · 0.0)
  | .text _ => .ok (.text (elementText s.shown))
  | _ => .error .wrongKind

def places : Scalar → Nat
  | .bool _ => 5
  | .int t _ => t.places
  | .float _ _ => 32
  | .complex _ _ _ => 64
  | .text s => s.length

end Scalar

namespace Value

/-- An item of a numeric array; nothing becomes NaN. -/
def toEntry : Value → Except Fault Float
  | .nothing => .ok Datum.nan.toFloat
  | v => v.toFloat

def toElementText : Value → Except Fault String
  | .bytes bs =>
    if bs.all (· < 128) then .ok (String.ofList (bs.map fun b => Char.ofNat b.toNat))
    else .error .unfit
  | v => .ok v.shown

def toScalar (t : ElementType) (v : Value) : Except Fault Scalar :=
  match v with
  | .scalar s => s.cast t
  | v => match t with
    | .bool => v.truth.map .bool
    | .int t => match v with
      | .int k => (t.ofExact k).map (.int t)
      | v => do .ok (.int t (← t.ofWhole (← v.toWhole)))
    | .float t => v.toEntry.map fun x => .float t (t.round x)
    | .complex t => match v with
      | .nothing => .ok (.complex t Datum.nan.toFloat Datum.nan.toFloat)
      | .complex re im => .ok (.complex t (t.round re) (t.round im))
      | v => v.toFloat.map fun x => .complex t (t.round x) 0.0
    | .text _ => v.toElementText.map fun s => .text (elementText s)
    | _ => .error .wrongKind

def places : Value → Nat
  | .scalar s => s.places
  | .bytes bs => bs.length
  | v => v.shown.length

end Value

end BoxMin
