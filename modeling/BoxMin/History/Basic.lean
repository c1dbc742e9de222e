import BoxMin.Client
import BoxMin.Value.Extent

set_option autoImplicit false

namespace BoxMin

structure History where
  capacity : Nat
  outputs : List Value := []
  displays : List Value := []
  rows : Array (List Float) := #[]

/-- The largest magnitude of the entries; NaN if there is one, zero if there are none. -/
def infNorm : List Float → Float
  | [] => 0.0
  | x :: xs => xs.foldl (fun best y => if best.isNaN || best ≥ y.abs then best else y.abs) x.abs

namespace History

def width (h : History) : Nat := 2 + h.outputs.length

def size (h : History) : Nat := h.rows.size

def toList (h : History) : List (List Float) := h.rows.toList

@[simp] theorem length_toList (h : History) : h.toList.length = h.size := by
  simp [toList, size]

def ofValues (capacity outputs displays : Value) : Except Fault History := do
  let outputs ← outputs.items
  let displays ← displays.items
  let k ← capacity.toLength
  let _ ← checkExtent [k, (2 + outputs.length : Nat)] ElementType.float64.bytes
  .ok { capacity := k.toNat, outputs, displays }

def push (h : History) (row : List Float) : Except Error History :=
  if h.capacity ≤ h.size then .error (.historyFull h.capacity)
  else if row.length ≠ h.width then .error (.rowWidth h.width row.length)
  else .ok { h with rows := h.rows.push row }

theorem toList_push {h h' : History} {row : List Float} (hp : h.push row = .ok h') :
    h'.toList = h.toList ++ [row] := by
  unfold push at hp
  split at hp
  · simp at hp
  · split at hp
    · simp at hp
    · cases hp; simp [toList]

/-- Adds a row given as a value, whose entries are read once its width is known to fit. -/
def append (h : History) (row : Value) : Except Error History :=
  if h.capacity ≤ h.size then .error (.historyFull h.capacity)
  else
    match row.length with
    | .error f => .error (.fault f)
    | .ok k =>
      if k ≠ h.width then .error (.rowWidth h.width k)
      else
        match row.toRow h.width with
        | .error f => .error (.fault f)
        | .ok xs => .ok { h with rows := h.rows.push xs }

variable {σ : Type} {n : Nat}

def displayValues (h : History) (c : Client σ) (s : Shared σ n) :
    Shared σ n × Except Error (List Float) :=
  c.diagnose (h.size + 1) h.displays s

def record (h : History) (c : Client σ) (f : Value) (g : List Float) (s : Shared σ n) :
    Shared σ n × Except Error History :=
  match c.diagnose (h.size + 1) h.outputs s with
  | (s, .error e) => (s, .error e)
  | (s, .ok extras) =>
    (s, h.append (.list (f :: .float (infNorm g) :: extras.map .float)))

end History

end BoxMin
