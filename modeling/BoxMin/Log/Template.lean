import BoxMin.Decimal.Rounded
import BoxMin.Log.Level
import BoxMin.Text.Padding
import BoxMin.Text.Word
import BoxMin.Value.Printed
import BoxMin.Value.Reading

/-!
Templates of log lines. A field is written `%(name)s`, with flags, width and precision before its
conversion letter; two percent signs stand for one. A template without any field is refused; one
that asks for what a record has not, or for a number where there is a text, makes no line.
-/

set_option autoImplicit false

namespace BoxMin

structure LogRecord where
  logger : String
  entry : LogEntry
  deriving DecidableEq, Repr

structure FieldSpec where
  flags : List Char := []
  width : Nat := 0
  precision : Option Nat := none
  conversion : Char
  deriving DecidableEq, Repr

namespace FieldSpec

def leftward (spec : FieldSpec) : Bool := spec.flags.contains '-'
def zeroFilled (spec : FieldSpec) : Bool := spec.flags.contains '0'
def alternate (spec : FieldSpec) : Bool := spec.flags.contains '#'

def pad (spec : FieldSpec) (s : String) : String :=
  if spec.leftward then padRight spec.width s else padLeft spec.width s

def cut (spec : FieldSpec) (s : String) : String :=
  match spec.precision with
  | some p => String.ofList (s.toList.take p)
  | none => s

def zerosBefore (count : Nat) (s : String) : String :=
  String.ofList (List.replicate (count - s.length) '0') ++ s

def number (spec : FieldSpec) (negative : Bool) (mark digits : String) : String :=
  let sign := if negative then "-"
    else if spec.flags.contains '+' then "+"
    else if spec.flags.contains ' ' then " " else ""
  let lead := sign ++ mark
  if spec.zeroFilled && !spec.leftward then lead ++ zerosBefore (spec.width - lead.length) digits
  else spec.pad (lead ++ digits)

def whole (spec : FieldSpec) (base : Nat) (mark : String) (k : Int) : String :=
  let digits := String.ofList (Nat.toDigits base k.natAbs)
  let digits := zerosBefore (spec.precision.getD 0) digits
  spec.number (k < 0) (if spec.alternate then mark else "") digits

/-- A whole number as the nearest double, unless it is too large for one. -/
def floating (spec : FieldSpec) (write : Nat → Nat → Nat → String) (k : Int) : Option String :=
  (Rat.toFloat? k).map fun x =>
    let digits := signedText (write (spec.precision.getD 6)) x.abs
    spec.number (k < 0) "" digits

def character? (k : Int) : Option String :=
  if 0 ≤ k && k.toNat.isValidChar then some (String.singleton (Char.ofNat k.toNat)) else none

def capitals (s : String) : String := String.ofList (s.toList.map Char.toUpper)

def writeWhole? (spec : FieldSpec) (k : Int) : Option String :=
  match spec.conversion with
  | 'd' | 'i' | 'u' => some (spec.whole 10 "" k)
  | 'x' => some (spec.whole 16 "0x" k)
  | 'X' => some (capitals (spec.whole 16 "0x" k))
  | 'o' => some (spec.whole 8 "0o" k)
  | 'f' | 'F' => spec.floating (fixedText spec.alternate) k
  | 'e' => spec.floating (scientificText spec.alternate) k
  | 'E' => (spec.floating (scientificText spec.alternate) k).map capitals
  | 'g' => spec.floating (fun p => generalText spec.alternate (max 1 p)) k
  | 'G' => (spec.floating (fun p => generalText spec.alternate (max 1 p)) k).map capitals
  | 'c' => (character? k).map spec.pad
  | _ => none

/-- Writes a value: any of them as a text, whole numbers as numbers too, and a text of one character
as a character. -/
def write? (spec : FieldSpec) (v : Value) : Option String :=
  match spec.conversion, v with
  | 's', v => some (spec.pad (spec.cut v.shown))
  | 'r', v => some (spec.pad (spec.cut v.quoted))
  | 'a', v => some (spec.pad (spec.cut (asciiText v.quoted)))
  | 'c', .text s => if s.length = 1 then some (spec.pad s) else none
  | _, .int k => spec.writeWhole? k
  | _, _ => none

end FieldSpec

namespace Template

def default : String := "[%(levelname)s] %(name)s: %(message)s"

def isFlag (c : Char) : Bool := c = '#' || c = '0' || c = '+' || c = ' ' || c = '-'

/-- Letters of conversions in either case. The dotted capital, the dotless small and the long one
count as the letters they are forms of. -/
def isConversion (c : Char) : Bool :=
  ['d', 'i', 'o', 'u', 'x', 'e', 'f', 'g', 'c', 'r', 's', 'a', '%'].contains c.toLower ||
    c.toNat = 0x130 || c.toNat = 0x131 || c.toNat = 0x17f

def dropCount (cs : List Char) : List Char :=
  match cs with
  | '*' :: rest => rest
  | cs => cs.dropWhile fun c => (decimalDigit? c).isSome

def beginsConversion (cs : List Char) : Bool :=
  let rest := dropCount (cs.dropWhile isFlag)
  let rest := match rest with
    | '.' :: rest => if (dropCount rest).length < rest.length then dropCount rest else []
    | rest => rest
  match rest with
  | c :: _ => isConversion c
  | [] => false

def beginsField : List Char → Bool
  | '%' :: '(' :: cs =>
    let name := cs.takeWhile isWordChar
    match cs.dropWhile isWordChar with
    | ')' :: rest => !name.isEmpty && beginsConversion rest
    | _ => false
  | _ => false

def hasField : List Char → Bool
  | [] => false
  | c :: cs => beginsField (c :: cs) || hasField cs

/-- The value of a field in a record; what a record does not use is nothing. -/
def field? (r : LogRecord) (name : String) : Option Value :=
  match name with
  | "levelname" => some (.text (Level.name r.entry.level))
  | "levelno" => some (.int r.entry.level)
  | "name" => some (.text r.logger)
  | "message" | "msg" => some (.text r.entry.message)
  | "args" => some (.tuple [])
  | "exc_info" | "exc_text" | "stack_info" | "taskName" => some .nothing
  | "processName" => some (.text "MainProcess")
  | "threadName" => some (.text "MainThread")
  | _ => none

/-- A place in a template, and the value that the next conversion may take. A key makes its value
available, and a conversion or a star takes it. -/
structure Place where
  rest : List Char
  value : Option Value := none

namespace Place

/-- The characters up to the closing bracket that belongs to an opening one already read, and what
follows it. -/
def key? : Nat → List Char → Option (List Char × List Char)
  | _, [] => none
  | depth, ')' :: cs =>
    match depth with
    | 0 => some ([], cs)
    | depth + 1 => (key? depth cs).map fun (name, rest) => (')' :: name, rest)
  | depth, '(' :: cs => (key? (depth + 1) cs).map fun (name, rest) => ('(' :: name, rest)
  | depth, c :: cs => (key? depth cs).map fun (name, rest) => (c :: name, rest)

def readKey? (r : LogRecord) (p : Place) : Option Place :=
  match p.rest with
  | '(' :: cs => do
    let (name, rest) ← key? 0 cs
    let v ← field? r (String.ofList name)
    some ⟨rest, some v⟩
  | _ => some p

def readCount? (p : Place) : Option (Int × Place) :=
  match p.rest with
  | '*' :: rest => match p.value with
    | some (.int k) => some (k, ⟨rest, none⟩)
    | _ => none
  | cs =>
    some (Numeral.digitsValue (cs.takeWhile Char.isDigit),
      { p with rest := cs.dropWhile Char.isDigit })

def skipSize (p : Place) : Place :=
  match p.rest with
  | c :: rest => if c = 'h' || c = 'l' || c = 'L' then { p with rest } else p
  | [] => p

/-- Reads flags, width, precision and conversion. A negative width sets a text to the left, a
negative precision counts as none of its digits. -/
def readSpec? (p : Place) : Option (FieldSpec × Place) := do
  let flags := p.rest.takeWhile isFlag
  let (width, p) ← readCount? { p with rest := p.rest.dropWhile isFlag }
  let (precision, p) ← match p.rest with
    | '.' :: rest =>
      (readCount? { p with rest }).map fun (k, p) => (some k.toNat, p)
    | _ => some (none, p)
  let p := skipSize p
  match p.rest with
  | c :: rest =>
    some (⟨if width < 0 then '-' :: flags else flags, width.natAbs, precision, c⟩,
      { p with rest })
  | [] => none

end Place

def fill? (r : LogRecord) : Nat → Place → Option (List Char)
  | 0, p => if p.rest.isEmpty then some [] else none
  | fuel + 1, p =>
    match p.rest with
    | [] => some []
    | '%' :: rest => do
      let (spec, p) ← (← Place.readKey? r { p with rest }).readSpec?
      if spec.conversion = '%' then
        let rest ← fill? r fuel p
        some ('%' :: rest)
      else
        let text ← spec.write? (← p.value)
        let rest ← fill? r fuel { p with value := none }
        some (text.toList ++ rest)
    | c :: rest => (fill? r fuel { p with rest }).map (c :: ·)

def line? (template : String) (r : LogRecord) : Option String :=
  (fill? r template.length { rest := template.toList }).map fun cs => String.ofList (cs ++ ['\n'])

/-- A template given as a value: a text with a field, or anything false for the default one. -/
def ofValue (v : Value) : Except Fault String := do
  if ← v.truth then
    match v with
    | .text s => if hasField s.toList then .ok s else .error .unfit
    | _ => .error .wrongKind
  else .ok default

end Template

end BoxMin
