import BoxMin.Value.Reading

set_option autoImplicit false

namespace BoxMin

inductive Cell where
  | truth (b : Bool)
  | whole (k : Int)
  | real (x : Float)

namespace Cell

def toBool : Cell → Bool
  | .truth b => b
  | .whole k => k ≠ 0
  | .real x => x != 0.0

def toInt : Cell → Int
  | .truth b => if b then 1 else 0
  | .whole k => k
  | .real x => ((wholeOfFloat x).toOption).getD 0

def toFloat : Cell → Float
  | .truth b => if b then 1.0 else 0.0
  | .whole k => Format.binary64.ofInt k
  | .real x => x

end Cell

inductive Kind where
  | truth | whole | single | double
  deriving DecidableEq, Repr

namespace Kind

def rank : Kind → Nat
  | .truth => 0
  | .whole => 1
  | .single => 2
  | .double => 3

def isFloating (k : Kind) : Bool := 2 ≤ k.rank

def join (a b : Kind) : Kind := if a.rank < b.rank then b else a

def round (k : Kind) (x : Float) : Float :=
  if k = .single then Format.binary32.roundFloat x else x

def cell (k : Kind) (c : Cell) : Cell :=
  match k, c with
  | .truth, c => .truth c.toBool
  | .whole, c => .whole c.toInt
  | .single, .whole k => .real (Format.binary32.ofInt k)
  | k, c => .real (k.round c.toFloat)

end Kind

/-- How much say an operand has in the kind of a result. -/
inductive Say where
  | axes | noAxes | plain
  deriving DecidableEq, Repr

namespace Kind

/-- Adds the kinds that have less say. A floating kind does not change; a whole one gives way to a
floating one, and truth values to anything. -/
def yield (more less : Option Kind) : Option Kind :=
  match more, less with
  | some a, some b =>
    if a.isFloating then some a
    else if a = .truth || b.isFloating then some (a.join b) else some a
  | some a, none => some a
  | none, less => less

def among (say : Say) (operands : List (Say × Kind)) : Option Kind :=
  (operands.filter fun o => o.1 = say).foldl
    (fun acc o => some ((acc.getD .truth).join o.2)) none

def common (operands : List (Say × Kind)) : Kind :=
  (yield (among .axes operands)
    (yield (among .noAxes operands) (among .plain operands))).getD .truth

end Kind

structure Operation where
  truths : Bool → Bool → Bool
  wholes : Int → Int → Int
  reals : Float → Float → Float

namespace Operation

def sum : Operation := ⟨(· || ·), (· + ·), (· + ·)⟩

def difference : Operation := ⟨fun a _ => a, (· - ·), (· - ·)⟩

def product : Operation := ⟨(· && ·), (· * ·), (· * ·)⟩

def quotient : Operation := ⟨fun a _ => a, fun a _ => a, (· / ·)⟩

def apply (op : Operation) (k : Kind) (a b : Cell) : Cell :=
  match k with
  | .truth => .truth (op.truths a.toBool b.toBool)
  | .whole => .whole (IntType.int64.wrap (op.wholes a.toInt b.toInt))
  | k => .real (k.round (op.reals a.toFloat b.toFloat))

end Operation

def wrappedPower (b : Int) : Nat → Int
  | 0 => 1
  | k + 1 =>
    let rest := wrappedPower (IntType.int64.wrap (b * b)) ((k + 1) / 2)
    if k % 2 = 0 then IntType.int64.wrap (b * rest) else rest
termination_by k => k
decreasing_by omega

/-- A whole power. Small exponents are worked out by products and quotients. -/
def Kind.power (kind : Kind) (x : Float) (k : Int) : Float :=
  let square := kind.round (x * x)
  match k with
  | 0 => 1.0
  | 1 => x
  | 2 => square
  | 3 => kind.round (square * x)
  | -1 => kind.round (1.0 / x)
  | -2 => kind.round (1.0 / square)
  | k => kind.round (Float.pow x (Float.ofInt k))

def plainPower (x : Float) (k : Int) : Except Fault Float :=
  if k = 0 then .ok 1.0
  else match Rat.toFloat? k with
    | none => .error .overflow
    | some y =>
      let power := Float.pow x y
      if x == 0.0 && k < 0 then .error .zeroDivisor
      else if power.isInf && x.isFinite then .error .overflow
      else .ok power

def plainQuotient (x y : Float) : Except Fault Float :=
  if y == 0.0 then .error .zeroDivisor else .ok (x / y)

end BoxMin
