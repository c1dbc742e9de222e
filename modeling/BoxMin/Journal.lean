import BoxMin.Client
import BoxMin.Solver.Adapter

/-!
A journal of a run: solver, routine and client as they are, except that each call is noted in the
memory they share before it is answered. What the answers are does not change.
-/

set_option autoImplicit false

namespace BoxMin

inductive Event where
  | allocated (n : Nat) (m : Operand) (workspace : Workspace)
  | step (query : Query) (element : ElementType) (x g : List Float)
  | routine (call : RoutineCall) (task : TaskField)
  | call (callable : Callable) (x : List Float)

namespace Event

def allocated? : Event → Option (Nat × Operand × Workspace)
  | .allocated n m w => some (n, m, w)
  | _ => none

def step? : Event → Option (Query × ElementType)
  | .step q element _ _ => some (q, element)
  | _ => none

end Event

variable {σ : Type}

def Client.noting (note : Event → σ → σ) (c : Client σ) : Client σ where
  call f s := c.call f { s with memory := note (.call f s.x.toList) s.memory }

def Routine.noting (note : Event → σ → σ) (r : Routine σ) : Routine σ where
  call call b s := r.call call b (note (.routine call b.workspace.task) s)

def Solver.noting (note : Event → σ → σ) (v : Solver σ) : Solver σ where
  allocate n m s := match v.allocate n m s with
    | (s, .ok w) => (note (.allocated n m w) s, .ok w)
    | refused => refused
  step q b s := v.step q b (note (.step q b.workspace.iwa.element b.x.toList b.g.toList) s)
  message := v.message

end BoxMin
