import BoxMin.Decimal.Layout
import BoxMin.Text.Lines
import BoxMin.Text.Quoted
import BoxMin.Value.Basic

/-!
Machine numbers and arrays as text. The numbers of an array stand in columns, its axes are shown by
brackets, and rows are broken into lines. Floating numbers of very unequal size are written with
exponents. Of a large array only the first and last items of each axis are shown.
-/

set_option autoImplicit false

namespace BoxMin

def complexText (write : Float → String) (re im : Float) : String :=
  let imaginary := write im
  if re == 0.0 && re.toBits = 0 then imaginary ++ "j"
  else
    let signed := if imaginary.startsWith "-" then imaginary else "+" ++ imaginary
    "(" ++ write re ++ signed ++ "j)"

def truthText (b : Bool) : String := if b then "True" else "False"

def joinWith (separator : String) (parts : List String) : String :=
  String.intercalate separator parts

def shapeText : List Nat → String
  | [n] => "(" ++ toString n ++ ",)"
  | shape => "(" ++ joinWith ", " (shape.map toString) ++ ")"

namespace FloatType

def digits : FloatType → Nat
  | .float16 => 3
  | .float32 => 6
  | .float64 => 15

/-- A number in a layout; one of a narrow type is written positionally up to its sure digits. -/
def laidOut (layout : Layout) (t : FloatType) (x : Float) : String :=
  match t with
  | .float64 => layout.float x
  | t => ({ layout with below := t.digits } : Layout).narrow t.format x

def text (t : FloatType) (x : Float) : String := t.laidOut Layout.readBack x

end FloatType

namespace Scalar

def shown : Scalar → String
  | .bool b => truthText b
  | .int _ k => toString k
  | .float t x => t.text x
  | .text s => s
  | .complex t re im => complexText (t.laidOut Layout.bare) re im

def formatted : Scalar → String
  | .float _ x => floatText x
  | s => s.shown

def quoted : Scalar → String
  | .bool b => "np." ++ truthText b ++ "_"
  | .text s => "np.str_(" ++ quoteText s ++ ")"
  | s => "np." ++ s.kindName ++ "(" ++ s.shown ++ ")"

end Scalar

structure ColumnEntry where
  whole : List Char
  fraction : List Char
  exponent : Int
  deriving DecidableEq, Repr

namespace ColumnEntry

def places : Nat := 8

def scientific (negative : Bool) (d : Decimal) : ColumnEntry :=
  ⟨(signText negative).toList ++ d.digits.take 1, d.digits.drop 1, d.leading⟩

def positional (negative : Bool) (d : Decimal) : ColumnEntry :=
  let (whole, fraction) := Layout.parts d.digits (d.leading + 1)
  ⟨(signText negative).toList ++ whole, if d.coefficient = 0 then [] else fraction, 0⟩

/-- What `write` makes of a finite number of a format and of the quotient it stands for. -/
def ofFloat? (fmt : Format) (write : Bool → Nat → Int → Nat × Nat → ColumnEntry) (x : Float) :
    Option ColumnEntry :=
  match Datum.ofFloat x with
  | .finite negative m q =>
    let quotient := magnitude m q
    (fmt.round? quotient.1 quotient.2).map fun (m, q) => write negative m q quotient
  | _ => none

def shortest (fmt : Format) (exponents negative : Bool) (m : Nat) (q : Int) (quotient : Nat × Nat) :
    ColumnEntry :=
  let d := fmt.shortest m q
  if exponents then
    scientific negative (d.cut quotient.1 quotient.2 (d.leading - places))
  else positional negative (d.cut quotient.1 quotient.2 (-places))

/-- Just as many digits behind the point: those of the number itself, except that the last one may
be the neighbour that reads back as the number. -/
def filled (fmt : Format) (count : Nat) (negative : Bool) (m : Nat) (q : Int)
    (_quotient : Nat × Nat) : ColumnEntry :=
  let d : Decimal :=
    if m = 0 then ⟨0, 0⟩
    else
      let i := fmt.roundingInterval m q
      let e := Decimal.leadingExponent i.mid i.den - count
      ⟨(i.onGrid? e).getD (let (a, b) := Decimal.scaled i.mid i.den e; roundDiv a b), e⟩
  let entry := scientific negative d
  { entry with
    fraction := entry.fraction.take count ++ List.replicate (count - entry.fraction.length) '0' }

def exponentText (width : Nat) (e : Int) : String :=
  let digits := (toString e.natAbs).toList
  (if e < 0 then "e-" else "e+") ++
    String.ofList (List.replicate (width - digits.length) '0' ++ digits)

end ColumnEntry

namespace NdArray

/-- Does a column of these numbers need exponents? The largest magnitude has more digits than its
type is sure to keep, or than the places of a column; the least is below a ten-thousandth; or they
are more than a thousand apart. -/
def needsExponents (t : FloatType) (xs : List Float) : Bool :=
  match (xs.filter fun x => x.isFinite && x != 0.0).map Float.abs with
  | [] => false
  | x :: rest =>
    let most := rest.foldl (fun a b => if a < b then b else a) x
    let least := rest.foldl (fun a b => if b < a then b else a) x
    let limit := Float.ofNat (Nat.pow 10 (min ColumnEntry.places t.digits))
    limit ≤ most || least < t.round 1e-4 || 1000.0 < t.round (most / least)

def greatest (lengths : List Nat) : Nat := lengths.foldl max 0

/-- Floating numbers with their points below each other; with `signs`, each has a sign. -/
def column (t : FloatType) (signs : Bool) (xs : List Float) : List String :=
  let exponents := needsExponents t xs
  let pieces (write : Bool → Nat → Int → Nat × Nat → ColumnEntry) (x : Float) :=
    (ColumnEntry.ofFloat? t.format write x).map fun c =>
      { c with whole := (signed signs (String.ofList c.whole)).toList }
  let first := xs.filterMap (pieces (ColumnEntry.shortest t.format exponents))
  let left := greatest (first.map fun c => c.whole.length)
  let right := greatest (first.map fun c => c.fraction.length)
  let digits := max 2 (greatest (first.map fun c => (toString c.exponent.natAbs).length))
  let write :=
    if exponents then ColumnEntry.filled t.format right
    else ColumnEntry.shortest t.format false
  let cells := xs.map fun x => match pieces write x with
    | some c =>
      padLeft left (String.ofList c.whole) ++ "." ++
        if exponents then String.ofList c.fraction ++ ColumnEntry.exponentText digits c.exponent
        else padRight right (String.ofList c.fraction)
    | none => signed signs (floatText x)
  cells.map (padLeft (greatest (cells.map String.length)))
where
  /-- A number without a sign gets one. -/
  signed (signs : Bool) (s : String) : String :=
    if signs && !s.startsWith "-" then "+" ++ s else s

/-- Complex numbers, their parts in columns of their own. The mark of the imaginary part stands
right behind it. -/
def complexColumn (t : FloatType) (parts : List (Float × Float)) : List String :=
  List.zipWith
    (fun re im =>
      let digits := withoutEnd im
      re ++ digits ++ "j" ++ blanks (im.length - digits.length))
    (column t false (parts.map (·.1))) (column t true (parts.map (·.2)))

def cells (element : ElementType) (framed : Bool) (items : List Scalar) : List String :=
  match element with
  | .float t => column t false (items.filterMap fun s => match s with
    | .float _ x => some x
    | _ => none)
  | .complex t => complexColumn t (items.filterMap fun s => match s with
    | .complex _ re im => some (re, im)
    | _ => none)
  | .text _ => items.map fun s => quoteText s.shown
  | .bool => items.map fun s => if framed then padLeft 5 s.shown else s.shown
  | _ =>
    let plain := items.map Scalar.shown
    plain.map (padLeft (greatest (plain.map String.length)))

def showLimit : Nat := 1000

def edge : Nat := 3

def shownPlaces (partly : Bool) (n : Nat) : List Nat :=
  if partly && 2 * edge < n then List.range edge ++ (List.range edge).map (n - edge + ·)
  else List.range n

def shownItems {α : Type} (partly : Bool) : List Nat → List α → List α
  | [], items => items
  | n :: rest, items =>
    let size := volume rest
    (shownPlaces partly n).flatMap fun i =>
      shownItems partly rest ((items.drop (i * size)).take size)

def withGap (partly : Bool) (n : Nat) (parts : List String) : List String :=
  if partly && 2 * edge < n then parts.take edge ++ "..." :: parts.drop edge else parts

/-- Brackets around each axis, in lines of the given width behind an indent. Rows of the last axis
are filled; those of other axes start new lines. -/
def bracketed (separator : String) (partly : Bool) (width indent : Nat) :
    List Nat → List String → String
  | [], cells => (cells.head?).getD ""
  | [n], cells =>
    "[" ++ fillLines (width - 1) indent separator (withGap partly n cells) ++ "]"
  | n :: rest, cells =>
    let size := volume (rest.map fun n => (shownPlaces partly n).length)
    let rows := (List.range (shownPlaces partly n).length).map fun i =>
      bracketed separator partly (width - 1) (indent + 1) rest ((cells.drop (i * size)).take size)
    let lineEnd := withoutEnd separator ++ String.ofList (List.replicate rest.length '\n')
    "[" ++ joinWith (lineEnd ++ blanks indent) (withGap partly n rows) ++ "]"

/-- The frame around items of a shape, behind `lead` characters of its first line; `write` makes
the texts of those that are shown. -/
def framed {α : Type} (shape : List Nat) (items : List α) (write : List α → List String)
    (separator : String) (width lead : Nat) : String :=
  if items.isEmpty then "[]"
  else
    let partly := showLimit < items.length
    bracketed separator partly width (lead + 1) shape (write (shownItems partly shape items))

def frame (a : NdArray) : (separator : String) → (width lead : Nat) → String :=
  framed a.shape a.items (cells a.element !a.shape.isEmpty)

def lineWidth : Nat := 75

/-- Shapes and types that the frame does not tell. -/
def remarks (shape : List Nat) (element : ElementType) (count : Nat) : List String :=
  let silent := [.float64, .bool, .int64, .complex .float64].contains element
  let shape :=
    if (count = 0 && shape ≠ [0]) || showLimit < count then ["shape=" ++ shapeText shape] else []
  let name := match element with
    | .text _ => "'" ++ element.name ++ "'"
    | t => t.name
  if count = 0 || !silent then shape ++ ["dtype=" ++ name] else shape

def lastLineLength (s : String) : Nat := (s.toList.reverse.takeWhile (· ≠ '\n')).length

def called (frame : (separator : String) → (width lead : Nat) → String) (remarks : List String) :
    String :=
  let lead := "array("
  let body := lead ++ frame ", " (lineWidth - 1) lead.length
  match remarks with
  | [] => body ++ ")"
  | remarks =>
    let body := body ++ ","
    let tail := joinWith ", " remarks ++ ")"
    if lineWidth < lastLineLength body + tail.length + 1 then
      body ++ "\n" ++ blanks lead.length ++ tail
    else body ++ " " ++ tail

def quoted (a : NdArray) : String := called a.frame (remarks a.shape a.element a.items.length)

def shown (a : NdArray) : String :=
  match a.shape, a.items with
  | [], [s] => s.shown
  | _, _ => a.frame " " lineWidth 0

def formatted (a : NdArray) : String :=
  match a.shape, a.items with
  | [], [s] => s.formatted
  | _, _ => a.shown

end NdArray

end BoxMin
