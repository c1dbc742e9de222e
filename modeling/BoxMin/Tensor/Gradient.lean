import BoxMin.Error
import BoxMin.Tensor.Basic
import BoxMin.Value.Tabular

/-!
Expressions in one input vector, with their gradient. Evaluating an expression yields its value
and a way back: what a change of the value contributes to the input, one vector for each use of
the input. The gradient adds the contributions up, starting from the first.
-/

set_option autoImplicit false

namespace BoxMin

inductive TensorExpr where
  | input
  /-- One entry of the input, counted from the end if negative. -/
  | entry (i : Int)
  /-- A constant vector or number. -/
  | constant (t : Tensor)
  | whole (v : Value)
  /-- A number that is no tensor. -/
  | plain (x : Float)
  | failing (f : Fault)
  | add (a b : TensorExpr)
  | sub (a b : TensorExpr)
  | mul (a b : TensorExpr)
  | div (a b : TensorExpr)
  | neg (a : TensorExpr)
  | pow (a : TensorExpr) (k : Int)
  | abs (a : TensorExpr)
  | relu (a : TensorExpr)
  | sum (a : TensorExpr)
  | detach (a : TensorExpr)
  | reshape (a : TensorExpr) (dims : List Int)
  deriving Inhabited

/-- A plain number, or a tensor and the way back from it. -/
inductive Traced where
  | plain (x : Float)
  | tensor (value : Tensor) (back : Tensor → List (List Float))

namespace Traced

def constant (t : Tensor) : Traced := .tensor t fun _ => []

def asTensor : Traced → Except Fault (Tensor × (Tensor → List (List Float)))
  | .plain _ => .error .noAttribute
  | .tensor v back => .ok (v, back)

/-- A plain number counts as single precision. -/
def standing : Traced → Say × Kind
  | .plain _ => (.plain, .single)
  | .tensor v _ => (v.say, v.kind)

def isTruth (a : Traced) : Bool := a.standing.2 == .truth

def valueIn (kind : Kind) : Traced → Tensor
  | .plain x => (Tensor.scalar x).cast kind
  | .tensor v _ => v.cast kind

/-- What a change of the value, given in the shape the value was brought to, contributes. -/
def contribute (a : Traced) (g : Tensor) : List (List Float) :=
  match a with
  | .plain _ => []
  | .tensor v back => back ((g.gather v.shape).cast v.kind)

/-- Puts two values of one kind together. `left` and `right` take a change of the result and both
operands to the change of one operand; what they compute is rounded by the function they get. -/
def zip (op : Operation) (kind : Kind)
    (left right : (Float → Float) → Float → Float → Float → Float) (a b : Traced) :
    Except Fault Traced :=
  let u := a.valueIn kind
  let v := b.valueIn kind
  match Tensor.align? u.shape v.shape with
  | none => .error .incompatible
  | some shape =>
    let xs := u.expanded shape
    let ys := v.expanded shape
    let change (h : (Float → Float) → Float → Float → Float → Float) (g : Tensor) : Tensor :=
      .ofReals kind shape (List.zipWith
        (fun g (p : Cell × Cell) => kind.round (h kind.round g p.1.toFloat p.2.toFloat))
        g.reals (xs.zip ys))
    .ok (.tensor ⟨kind, shape, List.zipWith (op.apply kind) xs ys⟩ fun g =>
      a.contribute (change left g) ++ b.contribute (change right g))

def commonKind (a b : Traced) : Kind := Kind.common [a.standing, b.standing]

def add (a b : Traced) : Except Fault Traced :=
  match a, b with
  | .plain x, .plain y => .ok (.plain (x + y))
  | a, b => a.zip .sum (a.commonKind b) (fun _ g _ _ => g) (fun _ g _ _ => g) b

def sub (a b : Traced) : Except Fault Traced :=
  match a, b with
  | .plain x, .plain y => .ok (.plain (x - y))
  | a, b =>
    if a.isTruth || b.isTruth then .error .unsupported
    else a.zip .difference (a.commonKind b) (fun _ g _ _ => g) (fun _ g _ _ => -g) b

def mul (a b : Traced) : Except Fault Traced :=
  match a, b with
  | .plain x, .plain y => .ok (.plain (x * y))
  | a, b => a.zip .product (a.commonKind b) (fun _ g _ y => g * y) (fun _ g x _ => g * x) b

def div (a b : Traced) : Except Fault Traced :=
  match a, b with
  | .plain x, .plain y => (plainQuotient x y).map .plain
  | a, b =>
    a.zip .quotient (Kind.join .single (a.commonKind b)) (fun _ g _ y => g / y)
      (fun round g x y => -g * round (round (x / y) / y)) b

def mapTensor (v : Tensor) (back : Tensor → List (List Float)) (f : Cell → Cell)
    (change : Float → Float → Float) : Traced :=
  .tensor (v.map f) fun g =>
    back (.ofReals v.kind v.shape
      (List.zipWith (fun g x => v.kind.round (change g x)) g.reals v.reals))

def mapNumbers (refusal : Fault) (onWhole : Int → Int) (onReal : Float → Float)
    (change : Float → Float → Float) (v : Tensor) (back : Tensor → List (List Float)) :
    Except Fault Traced :=
  if v.kind = .truth then .error refusal
  else
    .ok (mapTensor v back
      (fun c => match c with
        | .whole k => .whole (IntType.int64.wrap (onWhole k))
        | c => .real (onReal c.toFloat))
      change)

def neg : Traced → Except Fault Traced
  | .plain x => .ok (.plain (-x))
  | .tensor v back => mapNumbers .unsupported (- ·) (- ·) (fun g _ => -g) v back

def signOf (x : Float) : Float :=
  if 0.0 < x then 1.0 else if x < 0.0 then -1.0 else 0.0

def abs (a : Traced) : Except Fault Traced := do
  let (v, back) ← a.asTensor
  mapNumbers .unsupported (fun k => k.natAbs) Float.abs (fun g x => g * signOf x) v back

def kept (x : Float) : Float := if x < 0.0 then 0.0 else x

def relu (a : Traced) : Except Fault Traced := do
  let (v, back) ← a.asTensor
  mapNumbers .incompatible (max 0) kept (fun g x => if kept x ≤ 0.0 then 0.0 else g) v back

def isExponent (k : Int) : Bool := IntType.int64.holds k || IntType.uint64.holds k

/-- Whole numbers have no negative powers, and powers of truth values are whole. -/
def pow (a : Traced) (k : Int) : Except Fault Traced :=
  match a with
  | .plain x => (plainPower x k).map .plain
  | .tensor v back =>
    if !isExponent k then .error .overflow
    else if v.kind.isFloating then
      .ok (mapTensor v back (fun c => .real (v.kind.power c.toFloat k)) fun g x =>
        if k = 0 then 0.0
        else g * v.kind.round (v.kind.round (Float.ofInt k) * v.kind.power x (k - 1)))
    else if k < 0 then .error .incompatible
    else .ok (constant ⟨.whole, v.shape, v.data.map fun c => .whole (wrappedPower c.toInt k.toNat)⟩)

def sum (a : Traced) : Except Fault Traced := do
  let (v, back) ← a.asTensor
  .ok (.tensor v.sum fun g => back (.full v.kind v.shape (g.reals.headD 0.0)))

def detach (a : Traced) : Except Fault Traced := do
  let (v, _) ← a.asTensor
  .ok (constant v)

end Traced

/-- The shape asked for; one length may be left open as `-1`. -/
def requestedShape (size : Nat) (dims : List Int) : Except Fault (List Nat) :=
  let known := Tensor.sizeOf ((dims.filter (0 ≤ ·)).map Int.toNat)
  let opens := (dims.filter (· = -1)).length
  if dims.any (· < -1) || 1 < opens then .error .incompatible
  else if opens = 1 then
    if known = 0 || size % known ≠ 0 then .error .incompatible
    else .ok (dims.map fun d => if d = -1 then size / known else d.toNat)
  else if known = size then .ok (dims.map Int.toNat) else .error .incompatible

def Traced.reshape (a : Traced) (dims : List Int) : Except Fault Traced := do
  let (v, back) ← a.asTensor
  let shape ← requestedShape v.size dims
  .ok (.tensor { v with shape } fun g => back { g with shape := v.shape })

/-- A tensor of whole numbers, which must fit into words, or of truth values if there is nothing
else. An empty one is floating. -/
def Tensor.ofWholes (v : Value) : Except Fault Tensor := do
  let shape ← v.arrayShape
  let leaves := v.leaves
  let cells ← readAll
    (fun v => match v with
      | .bool b => .ok (.truth b)
      | .int k => if IntType.int64.holds k then .ok (.whole k) else .error .unfit
      | _ => .error .wrongKind)
    leaves
  let kind : Kind := cells.foldl (fun acc c => match c with
    | .truth _ => acc
    | _ => .whole) .truth
  .ok (if cells.isEmpty then ⟨.single, shape, []⟩ else (Tensor.mk kind shape cells).cast kind)

namespace TensorExpr

/-- Evaluates an expression at the input, operands from left to right. -/
def trace (t : List Float) : TensorExpr → Except Fault Traced
  | input => .ok (.tensor (.vector t) fun g => [g.reals])
  | entry i =>
    let place := if i < 0 then i + t.length else i
    match t[place.toNat]? with
    | some x =>
      if place < 0 then .error .noItem
      else
        .ok (.tensor (.scalar x) fun g => [(List.range t.length).map fun (j : Nat) =>
          if (j : Int) = place then g.reals.headD 0.0 else 0.0])
    | none => .error .noItem
  | constant c => .ok (.constant c)
  | whole v => (Tensor.ofWholes v).map .constant
  | plain x => .ok (.plain x)
  | failing f => .error f
  | add a b => do (← a.trace t).add (← b.trace t)
  | sub a b => do (← a.trace t).sub (← b.trace t)
  | mul a b => do (← a.trace t).mul (← b.trace t)
  | div a b => do (← a.trace t).div (← b.trace t)
  | neg a => do (← a.trace t).neg
  | pow a k => do (← a.trace t).pow k
  | abs a => do (← a.trace t).abs
  | relu a => do (← a.trace t).relu
  | sum a => do (← a.trace t).sum
  | detach a => do (← a.trace t).detach
  | reshape a dims => do (← a.trace t).reshape dims

def addUp (n : Nat) : List (List Float) → List Float
  | [] => List.replicate n 0.0
  | g :: gs => gs.foldl (List.zipWith (· + ·)) g

def evaluate (e : TensorExpr) (t : List Float) : Except Error (Float × List Float) := do
  let (v, back) ← orFault do (← e.trace t).asTensor
  match v.reals with
  | [f] => .ok (f, addUp t.length (back (.full v.kind v.shape 1.0)))
  | _ => .error (.notScalar v.shape)

end TensorExpr

end BoxMin
