import BoxMin.Tensor.Kind

set_option autoImplicit false

namespace BoxMin

structure Tensor where
  kind : Kind
  shape : List Nat
  data : List Cell

namespace Tensor

def sizeOf (shape : List Nat) : Nat := shape.foldl (· * ·) 1

def size (t : Tensor) : Nat := t.data.length

def ofReals (kind : Kind) (shape : List Nat) (xs : List Float) : Tensor :=
  ⟨kind, shape, xs.map .real⟩

def scalar (x : Float) : Tensor := ofReals .double [] [x]

def vector (xs : List Float) : Tensor := ofReals .double [xs.length] xs

def full (kind : Kind) (shape : List Nat) (x : Float) : Tensor :=
  ofReals kind shape (List.replicate (sizeOf shape) x)

def reals (t : Tensor) : List Float := t.data.map Cell.toFloat

def map (f : Cell → Cell) (t : Tensor) : Tensor := { t with data := t.data.map f }

def cast (t : Tensor) (kind : Kind) : Tensor := ⟨kind, t.shape, t.data.map kind.cell⟩

def say (t : Tensor) : Say := if t.shape.isEmpty then .noAxes else .axes

def alignReversed? : List Nat → List Nat → Option (List Nat)
  | [], ys => some ys
  | xs, [] => some xs
  | x :: xs, y :: ys =>
    if x = y then (alignReversed? xs ys).map (x :: ·)
    else if x = 1 then (alignReversed? xs ys).map (y :: ·)
    else if y = 1 then (alignReversed? xs ys).map (x :: ·)
    else none

def align? (s t : List Nat) : Option (List Nat) :=
  (alignReversed? s.reverse t.reverse).map List.reverse

/-- For each place of an aligned shape, from its last axis on, the place of the shape it repeats;
`stride` is how many numbers one step of the axis skips. -/
def sources (stride : Nat) : List Nat → List Nat → List Nat
  | [], _ => [0]
  | n :: ns, from_ =>
    let (k, rest) := match from_ with
      | [] => (1, [])
      | k :: rest => (k, rest)
    let outer := sources (stride * k) ns rest
    outer.flatMap fun o => (List.range n).map fun i => o + (if k = 1 then 0 else i * stride)

def placesIn (shape aligned : List Nat) : List Nat :=
  sources 1 aligned.reverse shape.reverse

def expanded (t : Tensor) (aligned : List Nat) : List Cell :=
  if t.shape = aligned then t.data
  else (placesIn t.shape aligned).map fun i => t.data.getD i (.real 0.0)

def gather (g : Tensor) (shape : List Nat) : Tensor :=
  if g.shape = shape then g
  else
    let places := (placesIn shape g.shape).zip g.reals
    .ofReals g.kind shape ((List.range (sizeOf shape)).map fun i =>
      places.foldl (fun acc (j, x) => if j = i then g.kind.round (acc + x) else acc) 0.0)

def sum (t : Tensor) : Tensor :=
  let kind := t.kind.join .whole
  ⟨kind, [], [t.data.foldl (Operation.sum.apply kind) (kind.cell (.whole 0))]⟩

end Tensor

end BoxMin
