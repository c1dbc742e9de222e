import BoxMin.Rehearsal.Script

set_option autoImplicit false

namespace BoxMin

variable {n : Nat}

def Buffers.beside (b : Buffers n) (w : Workspace) : Buffers n := { b with workspace := w }

theorem Move.make_beside (m : Move) (b : Buffers n) (w : Workspace) :
    m.make (b.beside w) = ((m.make b).1.beside w, (m.make b).2) := by
  unfold make Buffers.beside
  cases onVector (fun _ y => y) b.x m.set with
  | none => rfl
  | some x =>
    dsimp only
    cases onVector (Vector.zipWith (· + ·)) x m.add with
    | none => rfl
    | some x =>
      dsimp only
      cases onVector (fun _ y => y) b.g m.gradient with
      | none => rfl
      | some g => cases m.signal <;> rfl

theorem Move.make_workspace (m : Move) (b : Buffers n) : (m.make b).1.workspace = b.workspace := by
  have h := m.make_beside b b.workspace
  rw [show b.beside b.workspace = b from rfl] at h
  rw [h]
  rfl

namespace Script

variable {α : Type}

def next (s : Script α) (m : Memory) : Move × α := s.entries[m.played]?.getD s.after

theorem play_eq (s : Script α) (b : Buffers n) (m : Memory) :
    s.play b m = (((s.next m).1.make b).1, { m with played := m.played + 1 },
      ((s.next m).1.make b).2.map fun _ => (s.next m).2) := by
  unfold play next
  rcases s.entries[m.played]?.getD s.after with ⟨move, a⟩
  dsimp only
  rcases move.make b with ⟨b', e | ⟨⟩⟩ <;> rfl

theorem routine_call_eq (s : Script Stored) (k : RoutineCall) (b : Buffers n) (m : Memory) :
    s.routine.call k b m = match ((s.next m).1.make b).2 with
      | .error e => (((s.next m).1.make b).1, { m with played := m.played + 1 }, .error e)
      | .ok () => (((s.next m).1.make b).1.beside (b.workspace.store (s.next m).2),
          { m with played := m.played + 1 }, .ok ()) := by
  simp only [routine, play_eq]
  cases ((s.next m).1.make b).2 with
  | error e => rfl
  | ok =>
    simp only [Except.map, Buffers.beside, Move.make_workspace]

def map {β : Type} (f : α → β) (s : Script α) : Script β where
  entries := s.entries.map fun (move, a) => (move, f a)
  after := (s.after.1, f s.after.2)

theorem next_map {β : Type} (f : α → β) (s : Script α) (m : Memory) :
    (s.map f).next m = ((s.next m).1, f (s.next m).2) := by
  unfold next map
  simp only [Array.getElem?_map]
  cases s.entries[m.played]? <;> rfl

theorem next_mem (s : Script α) (m : Memory) : s.next m ∈ s.after :: s.entries.toList := by
  unfold next
  cases h : s.entries[m.played]? with
  | none => simp
  | some e => simpa using .inr (Array.mem_of_getElem? h)

end Script

end BoxMin
