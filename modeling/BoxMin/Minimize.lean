import BoxMin.Options.Check
import BoxMin.Run.Loop
import BoxMin.Shape

/-!
Minimizing over a box. Everything the caller handed over is checked before the solver is asked for
work areas; then the run is set up and driven to its end.
-/

set_option autoImplicit false

namespace BoxMin

/-- A checked problem: a starting point and bounds of one length, and options. -/
structure Checked where
  evaluator : Evaluator
  options : Options
  x0 : List Float
  lower : List Float
  upper : List Float

/-- Checks the arguments. The first rule that is broken decides: evaluator, bounds, option keys,
option values, starting point, crossed bounds. -/
def checkArguments (fcn lower upper : Value) (opts : Option Value) : Except Error Checked := do
  let evaluator ← Evaluator.ofValue fcn
  let (lo, hi) ← boundVectors lower upper
  let (options, x0) ← resolveOptions (.int lo.length) opts
  let x ← startVector x0 lo
  checkBounds lo hi
  .ok ⟨evaluator, options, x, lo, hi⟩

structure Prepared (σ : Type) where
  n : Nat
  problem : Problem
  state : RunState σ n

/-- What is left when a run is over, or could not be set up. -/
structure Outcome (σ : Type) where
  answer : Except Error Result
  cancel : Cancellation
  memory : σ
  printed : List String := []
  logged : List LogEntry := []

variable {σ : Type}

def prepare (v : Solver σ) (m : Operand) (settings : Settings) (evaluator : Evaluator)
    (x0 lower upper : List Float) (history : Except Error History) (watched : Bool)
    (cancel : Cancellation) (memory : σ) : σ × Except Error (Prepared σ) :=
  match v.allocate x0.length m memory with
  | (memory, .error e) => (memory, .error e)
  | (memory, .ok workspace) =>
    match encodeBounds lower upper, history with
    | .error e, _ => (memory, .error e)
    | .ok _, .error e => (memory, .error e)
    | .ok kinds, .ok history =>
      (memory, .ok
        { n := x0.toArray.size
          problem :=
            { evaluator, settings, lower := solverBounds lower, upper := solverBounds upper, kinds,
              watched }
          state := .initial x0.toArray.toVector workspace history cancel memory })

def Options.history (o : Options) : Except Error History :=
  orFault (History.ofValues (.int o.maxIts) (.tuple (o.outputFcn.map .callable))
    (.tuple (o.errFcn.map .callable)))

def Checked.prepare (p : Checked) (v : Solver σ) (watched : Bool) (cancel : Cancellation)
    (memory : σ) : σ × Except Error (Prepared σ) :=
  BoxMin.prepare v (p.options.m : Int) p.options.settings p.evaluator p.x0 p.lower p.upper
    p.options.history watched cancel memory

def Prepared.run (p : Prepared σ) (c : Client σ) (v : Solver σ) :
    Prepared σ × Except Error Result :=
  let (state, answer) := p.state.run c v p.problem
  ({ p with state }, answer)

def Prepared.outcome (p : Prepared σ) (answer : Except Error Result) : Outcome σ where
  answer := answer
  cancel := p.state.shared.cancel
  memory := p.state.shared.memory
  printed := p.state.printed.toList
  logged := p.state.logged.toList

def Prepared.withCancel (p : Prepared σ) (change : Cancellation → Cancellation) : Prepared σ :=
  { p with state.shared.cancel := change p.state.shared.cancel }

/-- Runs again and again, each time from where the last run ended. Each answer comes with the run
as it left it. -/
def Prepared.runAll (c : Client σ) (v : Solver σ) :
    List (Cancellation → Cancellation) → Prepared σ → List (Except Error Result × Prepared σ)
  | [], _ => []
  | change :: rest, p =>
    let (p, answer) := (p.withCancel change).run c v
    (answer, p) :: Prepared.runAll c v rest p

def minimize (c : Client σ) (v : Solver σ) (fcn lower upper : Value) (opts : Option Value)
    (watched : Bool) (cancel : Cancellation) (memory : σ) : Outcome σ :=
  match checkArguments fcn lower upper opts with
  | .error e => ⟨.error e, cancel, memory, [], []⟩
  | .ok checked =>
    match checked.prepare v watched cancel memory with
    | (memory, .error e) => ⟨.error e, cancel, memory, [], []⟩
    | (_, .ok prepared) =>
      let (prepared, answer) := prepared.run c v
      prepared.outcome answer

/-- The settings in unchecked fields. Tolerances that are no numbers become NaN. -/
def Fields.settings (f : Fields) (m : Operand) : Settings where
  m := m.value
  factr := (f.factr.toFloat.toOption).getD Datum.nan.toFloat
  pgtol := (f.pgtol.toFloat.toOption).getD Datum.nan.toFloat
  iterationLimit := (f.maxIts.toCount.toOption).getD 0
  callLimit := Number.ofValue f.maxTotalIts
  cadence := Number.ofValue f.printEvery

def Fields.prepare (f : Fields) (v : Solver σ) (evaluator : Evaluator)
    (x0 lower upper : List Float) (watched : Bool) (cancel : Cancellation) (memory : σ) :
    σ × Except Error (Prepared σ) :=
  match Operand.ofValue f.m with
  | .error e => (memory, .error (.fault e))
  | .ok m =>
    BoxMin.prepare v m (f.settings m) evaluator x0 lower upper
      (orFault (History.ofValues f.maxIts f.outputFcn f.errFcn)) watched cancel memory

end BoxMin
