import BoxMin.Value.Tabular

set_option autoImplicit false

namespace BoxMin

def wordLimit : Nat := Nat.pow 2 63

def memoryLimit : Nat := Nat.pow 2 36

/-- The bytes an array is counted with; empty axes are left out. -/
def countedBytes (shape : List Nat) (itemBytes : Nat) : Nat :=
  volume (shape.filter (0 < ·)) * itemBytes

def takenBytes (shape : List Nat) (itemBytes : Nat) : Nat :=
  volume shape * itemBytes

/-- Is there room for an array? Lengths must not be negative. -/
def checkExtent (lengths : List Int) (itemBytes : Nat) : Except Fault (List Nat) :=
  let shape := lengths.map Int.toNat
  if lengths.any (· < 0) || wordLimit ≤ countedBytes shape itemBytes then .error .unfit
  else if memoryLimit < takenBytes shape itemBytes then .error .exhausted
  else .ok shape

theorem checkExtent_eq_ok {lengths : List Int} {itemBytes : Nat} {shape : List Nat}
    (h : checkExtent lengths itemBytes = .ok shape) :
    shape = lengths.map Int.toNat ∧ takenBytes shape itemBytes ≤ memoryLimit := by
  simp only [checkExtent] at h
  split at h
  · cases h
  · split at h
    · cases h
    · cases h; exact ⟨rfl, by omega⟩

namespace Value

def toLength (v : Value) : Except Fault Int := do
  let k ← v.toCount
  if IntType.int64.holds k then .ok k else .error .unfit

/-- The lengths a value gives: those in a sequence, or one. A mapping is no sequence. -/
def toLengths (v : Value) : Except Fault (List Int) :=
  match v, v.items with
  | .mapping _, _ => .error .wrongKind
  | _, .ok lengths =>
    if axisLimit < lengths.length then .error .unfit else readAll toLength lengths
  | v, .error _ => v.toLength.map ([·])

def toShape (v : Value) : Except Fault (List Nat) := do
  checkExtent (← v.toLengths) ElementType.float64.bytes

end Value

end BoxMin
