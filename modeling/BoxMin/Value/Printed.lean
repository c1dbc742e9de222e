import BoxMin.Text.Quoted
import BoxMin.Value.Framed

/-!
Values as text. `quoted` shows a value inside a message, `shown` as a message of its own: texts
without quotes, machine numbers without their type, arrays without their name. `formatted` shows it
as a part of a sentence.
-/

set_option autoImplicit false

namespace BoxMin

def ratioText (r : Rat) : String :=
  if r.den = 1 then toString r.num else toString r.num ++ "/" ++ toString r.den

namespace Value

def cellText (v : Value) (text : String) : String :=
  match v with
  | .list _ => "list(" ++ text ++ ")"
  | _ => text

mutual

def quoted : Value → String
  | .nothing => "None"
  | .bool b => truthText b
  | .int k => toString k
  | .float x => floatText x
  | .text s => quoteText s
  | .bytes bs => quoteBytes bs
  | .list vs => "[" ++ joinWith ", " (quotedItems vs) ++ "]"
  | .tuple [v] => "(" ++ v.quoted ++ ",)"
  | .tuple vs => "(" ++ joinWith ", " (quotedItems vs) ++ ")"
  | .mapping es => "\x7b" ++ joinWith ", " (quotedEntries es) ++ "\x7d"
  | .ratio r => "Fraction(" ++ toString r.num ++ ", " ++ toString r.den ++ ")"
  | .decimal d => "Decimal('" ++ d.text ++ "')"
  | .complex re im => complexText Layout.bare.float re im
  | .scalar s => s.quoted
  | .array a => a.quoted
  | .cells shape items =>
    NdArray.called
      (NdArray.framed shape (List.ofFn fun i => cellText (items i) (items i).quoted) id)
      (NdArray.remarks shape .object (volume shape))
  | .callable c => c.shown

def quotedItems : List Value → List String
  | [] => []
  | v :: vs => v.quoted :: quotedItems vs

def quotedEntries : List (Value × Value) → List String
  | [] => []
  | (k, v) :: es => (k.quoted ++ ": " ++ v.quoted) :: quotedEntries es

end

def isShort (k : Int) : Bool := k.natAbs < Nat.pow 10 Numeral.wholeDigitLimit

mutual

/-- Can a value be quoted? It cannot if that takes writing out a whole number that is too long. -/
def isWritable : Value → Bool
  | .int k => isShort k
  | .ratio r => isShort r.num && isShort r.den
  | .list vs => (writableItems vs).all id
  | .tuple vs => (writableItems vs).all id
  | .mapping es => writableEntries es
  | .scalar (.int _ k) => isShort k
  | .cells shape items =>
    (NdArray.shownItems (NdArray.showLimit < volume shape) shape
      (List.ofFn fun i => (items i).isWritable)).all id
  | _ => true

def writableItems : List Value → List Bool
  | [] => []
  | v :: vs => v.isWritable :: writableItems vs

def writableEntries : List (Value × Value) → Bool
  | [] => true
  | (k, v) :: es => k.isWritable && v.isWritable && writableEntries es

end

def shown : Value → String
  | .text s => s
  | .ratio r => ratioText r
  | .decimal d => d.text
  | .scalar s => s.shown
  | .array a => a.shown
  | .cells [] items => (items ⟨0, Nat.one_pos⟩).shown
  | .cells shape items =>
    NdArray.framed shape (List.ofFn fun i => cellText (items i) (items i).quoted) id " "
      NdArray.lineWidth 0
  | v => v.quoted

/-- A value inside a sentence, where machine numbers count as doubles. -/
def formatted : Value → String
  | .scalar s => s.formatted
  | .array a => a.formatted
  | .cells [] items => (items ⟨0, Nat.one_pos⟩).formatted
  | v => v.shown

/-- The text of an error made from plain arguments: empty for none, one shown by itself, several as
a tuple. There is none if an argument cannot be written out. -/
def argumentsText (args : List Value) : Except Fault String :=
  if args.all isWritable then
    match args with
    | [] => .ok ""
    | [v] => .ok v.shown
    | vs => .ok (tuple vs).quoted
  else .error .unfit

def calledName : Value → String
  | .callable c => if c.anonymous then c.shown else c.label
  | v => v.quoted

end Value

end BoxMin
