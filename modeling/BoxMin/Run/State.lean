import BoxMin.History.Basic
import BoxMin.Log.Level
import BoxMin.Number
import BoxMin.Options.Basic
import BoxMin.Solver.Basic
import BoxMin.Status

/-!
A run and its state. The point is one buffer that solver, evaluator and diagnostics share; f and g
are those of the last evaluation, except for what the solver writes into g.
-/

set_option autoImplicit false

namespace BoxMin

/-- The options as the loop uses them. A limit or cadence that is no number refuses when it is
first compared. -/
structure Settings where
  m : Int
  factr : Float
  pgtol : Float
  iterationLimit : Int
  callLimit : Except Fault Number
  cadence : Except Fault Number

def Options.settings (o : Options) : Settings where
  m := o.m
  factr := o.factr
  pgtol := o.pgtol
  iterationLimit := o.maxIts
  callLimit := .ok (.whole o.maxTotalIts)
  cadence := .ok (.whole o.printEvery)

structure Problem where
  evaluator : Evaluator
  settings : Settings
  lower : List Float
  upper : List Float
  kinds : List BoundKind
  /-- Does the run look at the cancellation that the caller's code can set? -/
  watched : Bool := true

structure RunState (σ : Type) (n : Nat) where
  shared : Shared σ n
  f : Float := 0.0
  g : Vector Float n
  workspace : Workspace
  task : Task := .start
  message : String := "START"
  /-- Accepted iterates. -/
  outer : Nat := 0
  /-- Calls of the solver. -/
  total : Nat := 0
  history : History
  /-- The reason of an evaluator that declared a point infeasible. -/
  declared : Option String := none
  printed : Array String := #[]
  logged : Array LogEntry := #[]

structure Result where
  x : List Float
  f : Float
  g : List Float
  nit : Nat
  totalIts : Nat
  status : Status
  task : Task
  message : String
  solverMessage : String
  history : List (List Float)
  width : Nat

namespace Result

def success (r : Result) : Bool := r.status.success

end Result

namespace RunState

variable {σ : Type} {n : Nat}

def initial (x : Vector Float n) (workspace : Workspace) (history : History)
    (cancel : Cancellation) (memory : σ) : RunState σ n where
  shared := ⟨x, cancel, memory⟩
  g := Vector.replicate n 0.0
  workspace := workspace
  history := history

def log (s : RunState σ n) (level : Int) (message : String) : RunState σ n :=
  { s with logged := s.logged.push ⟨level, message⟩ }

def query (p : Problem) (s : RunState σ n) : Query where
  m := p.settings.m
  lower := p.lower
  upper := p.upper
  kinds := p.kinds
  f := s.f
  factr := p.settings.factr
  pgtol := p.settings.pgtol

def buffers (s : RunState σ n) : Buffers n := ⟨s.shared.x, s.g, s.workspace⟩

def withBuffers (s : RunState σ n) (b : Buffers n) (memory : σ) : RunState σ n :=
  { s with shared := { s.shared with x := b.x, memory }, g := b.g, workspace := b.workspace }

def summary (s : RunState σ n) (status : Status) (solverMessage : String) : Result where
  x := s.shared.x.toList
  f := s.f
  g := s.g.toList
  nit := s.outer
  totalIts := s.total
  status := status
  task := s.task
  message := s.message
  solverMessage := solverMessage
  history := s.history.toList
  width := s.history.width

/-- The result of a run. There is none if the solver does not give its second text. -/
def result (v : Solver σ) (s : RunState σ n) (status : Status) : Except Error Result :=
  (v.message s.workspace s.shared.memory).map (s.summary status)

end RunState

end BoxMin
