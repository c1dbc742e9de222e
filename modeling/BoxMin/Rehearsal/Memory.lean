import BoxMin.Journal

set_option autoImplicit false

namespace BoxMin

structure Memory where
  /-- Calls so far, by the number of the callable. -/
  counts : List (Nat × Nat) := []
  /-- Buffers, in the order they were made. -/
  buffers : List (Nat × List Float) := []
  /-- Entries of the script already played. -/
  played : Nat := 0
  journal : Array Event := #[]

namespace Memory

def callsOf (m : Memory) (id : Nat) : Nat :=
  (m.counts.lookup id).getD 0

def setFor {α : Type} (id : Nat) (a : α) : List (Nat × α) → List (Nat × α)
  | [] => [(id, a)]
  | (k, b) :: rest => if k = id then (k, a) :: rest else (k, b) :: setFor id a rest

def count (m : Memory) (id : Nat) : Memory :=
  { m with counts := setFor id (m.callsOf id + 1) m.counts }

def note (e : Event) (m : Memory) : Memory :=
  { m with journal := m.journal.push e }

end Memory

end BoxMin
