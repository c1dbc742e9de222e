import BoxMin.History.Basic

/-!
The record of iterates as it is kept: slots for all its rows, zeros at first, and the number of those
in use. A row is written into the next slot, which counts as used once all of the row is there; a row
that is refused may have been written in part.
-/

set_option autoImplicit false

namespace BoxMin

def leadingEntries : List Value → List Float
  | [] => []
  | v :: vs => match v.toEntry with
    | .ok x => x :: leadingEntries vs
    | .error _ => []

structure SlottedHistory where
  capacity : Nat
  outputs : List Value := []
  displays : List Value := []
  cells : Nat → Nat → Float := fun _ _ => 0.0
  used : Nat := 0
  fits : used ≤ capacity := by simp

namespace SlottedHistory

def width (s : SlottedHistory) : Nat := 2 + s.outputs.length

def slot (s : SlottedHistory) (i : Nat) : List Float := (List.range s.width).map (s.cells i)

def rows (s : SlottedHistory) : List (List Float) := (List.range s.used).map s.slot

def write (s : SlottedHistory) (xs : List Float) : SlottedHistory :=
  { s with cells := fun i j => if i = s.used then xs[j]?.getD (s.cells i j) else s.cells i j }

def writeRow (s : SlottedHistory) (xs : List Float) (hroom : s.used < s.capacity) :
    SlottedHistory :=
  { s.write xs with used := s.used + 1, fits := hroom }

/-- Adds a row given as a value. Of a row that is refused for an entry, `spill` is in the slot by
then. -/
def append (spill : Value → List Float) (s : SlottedHistory) (row : Value) :
    SlottedHistory × Except Error Unit :=
  if hfull : s.capacity ≤ s.used then (s, .error (.historyFull s.capacity))
  else
    match row.length with
    | .error f => (s, .error (.fault f))
    | .ok k =>
      if k ≠ s.width then (s, .error (.rowWidth s.width k))
      else
        match row.toRow s.width with
        | .error f => (s.write (spill row), .error (.fault f))
        | .ok xs => (s.writeRow xs (Nat.not_le.mp hfull), .ok ())

variable {σ : Type} {n : Nat}

def displayValues (s : SlottedHistory) (c : Client σ) (sh : Shared σ n) :
    Shared σ n × Except Error (List Float) :=
  c.diagnose (s.used + 1) s.displays sh

def record (spill : Value → List Float) (s : SlottedHistory) (c : Client σ) (f : Value)
    (g : List Float) (sh : Shared σ n) : Shared σ n × SlottedHistory × Except Error Unit :=
  match c.diagnose (s.used + 1) s.outputs sh with
  | (sh, .error e) => (sh, s, .error e)
  | (sh, .ok extras) =>
    (sh, s.append spill (.list (f :: .float (infNorm g) :: extras.map .float)))

/-- The record without what lies in slots that are not in use. -/
def toHistory (s : SlottedHistory) : History where
  capacity := s.capacity
  outputs := s.outputs
  displays := s.displays
  rows := s.rows.toArray

end SlottedHistory

end BoxMin
