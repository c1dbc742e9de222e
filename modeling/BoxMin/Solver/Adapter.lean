import BoxMin.Solver.Basic
import BoxMin.Task.Code
import BoxMin.Value.Reading

set_option autoImplicit false

namespace BoxMin

/-- What the routine is told besides the query: its line search limit and, if it reports in text,
its verbosity. -/
structure RoutineCall where
  query : Query
  maxls : Int
  iprint : Option Int

/-- A routine that writes into the buffers only. -/
structure Routine (σ : Type) where
  call : {n : Nat} → RoutineCall → Buffers n → σ → Buffers n × σ × Except Error Unit

/-- How the routine reports, and the type of its whole numbers. -/
inductive Protocol where
  | codes
  | text (element : ElementType)
  deriving DecidableEq, Repr

namespace Protocol

def element : Protocol → ElementType
  | .codes => .int32
  | .text element => element

def isText : Protocol → Bool
  | .codes => false
  | .text _ => true

end Protocol

structure Adapter where
  protocol : Protocol := .codes
  maxls : Int := 20
  iprint : Int := -1
  deriving DecidableEq, Repr

def TaskField.reply : TaskField → Reply
  | .text bytes => .ofTrimmed (fieldText bytes)
  | .codes status detail => .ofCodes status detail

namespace Adapter

/-- A line search limit must be above zero as it is given; what is used is its whole part. -/
def ofValues (protocol : Protocol) (maxls iprint : Value) : Except Error Adapter := do
  if ← orFault maxls.atMostZero then .error .lineSearchLimit
  else
    let maxls ← orFault maxls.toWhole
    let iprint ← orFault iprint.toWhole
    .ok ⟨protocol, maxls, iprint⟩

def message (a : Adapter) (w : Workspace) : String :=
  match a.protocol with
  | .codes => ""
  | .text _ => String.ofList (fieldText w.csave)

def routineCall (a : Adapter) (q : Query) : RoutineCall where
  query := q
  maxls := a.maxls
  iprint := if a.protocol.isText then some a.iprint else none

variable {σ : Type}

def step (a : Adapter) (r : Routine σ) {n : Nat} (q : Query) (b : Buffers n) (s : σ) :
    Buffers n × σ × Except Error Reply :=
  match r.call (a.routineCall q) b s with
  | (b, s, .error e) => (b, s, .error e)
  | (b, s, .ok ()) => (b, s, .ok b.workspace.task.reply)

def solver (a : Adapter) (r : Routine σ) : Solver σ where
  allocate n m s := (s, Workspace.allocate (n : Int) m a.protocol.element a.protocol.isText)
  step := a.step r
  message w _ := .ok (a.message w)

end Adapter

end BoxMin
