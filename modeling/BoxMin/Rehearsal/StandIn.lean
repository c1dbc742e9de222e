import BoxMin.Rehearsal.Memory
import BoxMin.Tensor.Gradient

set_option autoImplicit false

namespace BoxMin

/-- What a table does at one call, in this order: it moves the point, sets or clears the
cancellation, fails, or answers. -/
structure TableRow where
  shift : Option (List Float) := none
  cancel : Option (List Value) := none
  uncancel : Bool := false
  signal : Option Signal := none
  answer : Value := .nothing

inductive StandIn where
  | constant (v : Value)
  /-- One coordinate, counted from the end if negative. -/
  | coordinate (i : Int)
  | total
  | counter
  /-- Fails from the given call on. -/
  | failing (signal : Signal) (first : Int)
  /-- Sets the cancellation at the given call. -/
  | cancelling (reasons : List Value) (turn : Int)
  | nudging (i : Int) (amount : Float)
  | squaresValue
  | squaresGradient
  | squares
  | weighted (centers weights : List Float)
  /-- The banana-shaped valley in two variables. -/
  | valley
  /-- Hands out one gradient buffer again and again, raised by one at each call. -/
  | buffered
  | expression (e : TensorExpr)
  | table (rows : List TableRow)

/-- A place counted from the front, or from the end if negative. -/
def place? (n : Nat) (i : Int) : Option (Fin n) :=
  let j := if i < 0 then i + n else i
  if j < 0 then none
  else if h : j.toNat < n then some ⟨j.toNat, h⟩
  else none

/-- As many numbers as the point has coordinates; one number serves for all. -/
def spread? (n : Nat) (xs : List Float) : Option (Vector Float n) :=
  if h : xs.toArray.size = n then some ⟨xs.toArray, h⟩
  else match xs with
    | [x] => some (Vector.replicate n x)
    | _ => none

def sumOf (xs : List Float) : Float := xs.foldl (· + ·) 0.0

def sumOfSquares (xs : List Float) : Float := xs.foldl (fun f x => f + x * x) 0.0

def doubled (xs : List Float) : List Float := xs.map fun x => 2.0 * x

def weightedSquares (xs centers weights : List Float) : Float × List Float :=
  let parts := (xs.zip (centers.zip weights)).map fun (x, c, w) => (x - c, w)
  (parts.foldl (fun f (d, w) => f + w * (d * d)) 0.0, parts.map fun (d, w) => 2.0 * w * d)

def valleyAt (a b : Float) : Float × List Float :=
  let p := 1.0 - a
  let q := b - a * a
  (p * p + 100.0 * (q * q), [-2.0 * p - 400.0 * a * q, 200.0 * q])

def evaluation (f : Float) (g : List Float) : Value :=
  .tuple [.float f, .ofFloats g]

namespace TableRow

variable {n : Nat}

def prepare (r : TableRow) (s : Shared Memory n) : Shared Memory n × Except Fault Unit :=
  match r.shift with
  | none => cancelIn s
  | some xs => match spread? n xs with
    | some d => cancelIn { s with x := s.x.zipWith (· + ·) d }
    | none => (s, .error .unfit)
where
  clearIn (s : Shared Memory n) : Shared Memory n :=
    if r.uncancel then { s with cancel := s.cancel.clear } else s
  cancelIn (s : Shared Memory n) : Shared Memory n × Except Fault Unit :=
    match r.cancel with
    | none => (clearIn s, .ok ())
    | some reasons => match s.cancel.setWith reasons with
      | .ok cancel => (clearIn { s with cancel }, .ok ())
      | .error f => (s, .error f)

def act (r : TableRow) (s : Shared Memory n) : Shared Memory n × Except Error Value :=
  match r.prepare s with
  | (s, .error f) => (s, .error (.fault f))
  | (s, .ok ()) => match r.signal with
    | some signal => (s, .error (.signal signal))
    | none => (s, .ok r.answer)

end TableRow

namespace StandIn

variable {n : Nat}

def act (a : StandIn) (id calls : Nat) (s : Shared Memory n) : Shared Memory n × Except Error Value :=
  let xs := s.x.toList
  match a with
  | constant v => (s, .ok v)
  | coordinate i => match place? n i with
    | some j => (s, .ok (.scalar (.double s.x[j])))
    | none => (s, .error (.fault .noItem))
  | total => (s, .ok (.float (sumOf xs)))
  | counter => (s, .ok (.int calls))
  | failing signal first =>
    (s, if first ≤ calls then .error (.signal signal) else .ok (.float 0.0))
  | cancelling reasons turn =>
    if turn = calls then match s.cancel.setWith reasons with
      | .ok cancel => ({ s with cancel }, .ok (.float (Float.ofNat calls)))
      | .error f => (s, .error (.fault f))
    else (s, .ok (.float (Float.ofNat calls)))
  | nudging i amount => match place? n i with
    | some j =>
      let y := s.x[j] + amount
      ({ s with x := s.x.set j y }, .ok (.scalar (.double y)))
    | none => (s, .error (.fault .noItem))
  | squaresValue => (s, .ok (.float (sumOfSquares xs)))
  | squaresGradient => (s, .ok (.ofFloats (doubled xs)))
  | squares => (s, .ok (evaluation (sumOfSquares xs) (doubled xs)))
  | weighted centers weights =>
    let (f, g) := weightedSquares xs centers weights
    (s, .ok (evaluation f g))
  | valley => match xs with
    | [a, b] =>
      let (f, g) := valleyAt a b
      (s, .ok (.tuple [.float f, .list (g.map .float)]))
    | _ => (s, .error (.fault .unfit))
  | buffered =>
    let before := (s.memory.buffers.lookup id).getD (List.replicate n 0.0)
    let g := before.map (· + 1.0)
    let memory := { s.memory with buffers := Memory.setFor id g s.memory.buffers }
    ({ s with memory }, .ok (evaluation (Float.ofNat calls) g))
  | expression e => match e.evaluate xs with
    | .ok (f, g) => (s, .ok (evaluation f g))
    | .error e => (s, .error e)
  | table rows => match rows[min calls rows.length - 1]? with
    | some r => r.act s
    | none => (s, .error (.fault .noItem))

end StandIn

structure Cast where
  members : Array StandIn := #[]

namespace Cast

def client (c : Cast) : Client Memory :=
  Client.noting Memory.note
    { call := fun f s =>
        let s := { s with memory := s.memory.count f.id }
        match c.members[f.id]? with
        | some a => a.act f.id (s.memory.callsOf f.id) s
        | none => (s, .error (.fault .wrongKind)) }

end Cast

end BoxMin
