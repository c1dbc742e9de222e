import BoxMin.History.Progress
import BoxMin.Run.State

/-!
The loop of a run. Each call of the solver is answered by its task: an evaluation, the record of
an iterate, or the end. Calls are bounded by the limit on them, so the loop recurses on the calls
left.
-/

set_option autoImplicit false

namespace BoxMin

/-- What an evaluator's reasons come to: their text, or a default if that is empty. -/
def infeasibleReason (reasons : List Value) : Except Fault String :=
  (Value.argumentsText reasons).map fun text => if text.isEmpty then "infeasible" else text

def gradient (n : Nat) (v : Value) : Except Error (Vector Float n) :=
  match v.toVector with
  | .error f => .error (.fault f)
  | .ok xs =>
    if h : xs.toArray.size = n then .ok ⟨xs.toArray, h⟩
    else .error (.gradientLength xs.length n)

inductive Progress where
  | running
  | ended (status : Status)
  | failed (e : Error)

namespace RunState

variable {σ : Type} {n : Nat}

/-- Puts the values of an evaluation into the state, f before g. -/
def take (s : RunState σ n) (v : Value) : RunState σ n × Except Error Unit :=
  match v.pair with
  | .error e => (s, .error (.fault e))
  | .ok (fv, gv) =>
    match fv.toFloat with
    | .error e => (s, .error (.fault e))
    | .ok f =>
      match gradient n gv with
      | .error e => ({ s with f }, .error e)
      | .ok g => ({ s with f, g }, .ok ())

/-- Keeps the reason of an evaluator that declares the point infeasible. Reasons that cannot be
written out are a failure of their own. -/
def declare (s : RunState σ n) (reasons : List Value) : RunState σ n × Except Error Unit :=
  match infeasibleReason reasons with
  | .ok reason => ({ s with declared := some reason }, .ok ())
  | .error e => (s, .error (.fault e))

def evaluate (c : Client σ) (p : Problem) (s : RunState σ n) : RunState σ n × Except Error Unit :=
  match p.evaluator.call c s.shared with
  | (shared, .ok v) => take { s with shared } v
  | (shared, .error (.signal (.infeasible reasons))) => declare { s with shared } reasons
  | (shared, .error e) => ({ s with shared }, .error e)

/-- Why the run must stop as infeasible, if it must; what an evaluator declared comes first. -/
def stopReason (p : Problem) (s : RunState σ n) : Option Value :=
  match s.declared with
  | some reason => some (.text reason)
  | none => if p.watched then s.shared.cancel.reason else none

/-- Logs why the run stops, unless that cannot be written out: logging refuses no one. -/
def logStop (s : RunState σ n) (reason : Value) : RunState σ n :=
  { s with
    logged := if reason.isWritable then
      s.logged.push ⟨Level.warning, "Infeasible, exiting: " ++ reason.shown⟩
    else s.logged }

def checkStop (p : Problem) (s : RunState σ n) : RunState σ n × Progress :=
  match s.stopReason p with
  | some reason => (s.logStop reason, .ended .infeasible)
  | none => (s, .running)

def answerRequest (c : Client σ) (p : Problem) (s : RunState σ n) : RunState σ n × Progress :=
  match s.evaluate c p with
  | (s, .error e) => (s, .failed e)
  | (s, .ok ()) => s.checkStop p

def lineDue (p : Problem) (s : RunState σ n) : Except Error Bool :=
  match p.settings.cadence with
  | .ok cadence => orFault (cadence.due s.outer)
  | .error f => .error (.fault f)

def display (c : Client σ) (p : Problem) (s : RunState σ n) : RunState σ n × Except Error Unit :=
  match s.lineDue p with
  | .error e => (s, .error e)
  | .ok false => (s, .ok ())
  | .ok true =>
    match s.history.displayValues c s.shared with
    | (shared, .error e) => ({ s with shared }, .error e)
    | (shared, .ok errors) =>
      let line := progressLine s.outer s.f (infNorm s.g.toList) errors
      ({ s with shared, printed := s.printed.push line }, .ok ())

def record (c : Client σ) (s : RunState σ n) : RunState σ n × Except Error Unit :=
  match s.history.record c (.float s.f) s.g.toList s.shared with
  | (shared, .error e) => ({ s with shared }, .error e)
  | (shared, .ok history) => ({ s with shared, history }, .ok ())

def checkLimit (p : Problem) (s : RunState σ n) : RunState σ n × Progress :=
  if p.settings.iterationLimit ≤ s.outer then
    (s.log Level.info s!"Maxed-out iteration counter ({p.settings.iterationLimit}), exiting",
      .ended .maxIter)
  else (s, .running)

def acceptIterate (c : Client σ) (p : Problem) (s : RunState σ n) : RunState σ n × Progress :=
  match ({ s with outer := s.outer + 1 }).display c p with
  | (s, .error e) => (s, .failed e)
  | (s, .ok ()) =>
    match s.record c with
    | (s, .error e) => (s, .failed e)
    | (s, .ok ()) =>
      match s.checkStop p with
      | (s, .running) => s.checkLimit p
      | ended => ended

def answer (c : Client σ) (p : Problem) (s : RunState σ n) : RunState σ n × Progress :=
  match s.task with
  | .requestFG => s.answerRequest c p
  | .newX => s.acceptIterate c p
  | task => (s, .ended (.ofTask task))

def callSolver (v : Solver σ) (p : Problem) (s : RunState σ n) :
    RunState σ n × Except Error Unit :=
  match v.step (s.query p) s.buffers s.shared.memory with
  | (b, memory, .error e) => (s.withBuffers b memory, .error e)
  | (b, memory, .ok reply) =>
    ({ s.withBuffers b memory with
        task := reply.task, message := reply.message, total := s.total + 1 }, .ok ())

def advance (c : Client σ) (v : Solver σ) (p : Problem) (s : RunState σ n) :
    RunState σ n × Progress :=
  match s.callSolver v p with
  | (s, .error e) => (s, .failed e)
  | (s, .ok ()) => s.answer c p

/-- Runs for so many more calls; a run that uses them all up ends at the limit on calls. -/
def loop (c : Client σ) (v : Solver σ) (p : Problem) (limit : Int) :
    Nat → RunState σ n → RunState σ n × Except Error Status
  | 0, s =>
    (s.log Level.warning s!"Maxed-out the total iteration counter ({limit}), exiting",
      .ok .maxTotalIter)
  | left + 1, s =>
    match s.advance c v p with
    | (s, .running) => loop c v p limit left s
    | (s, .ended status) => (s, .ok status)
    | (s, .failed e) => (s, .error e)

def startLine (n : Nat) (settings : Settings) : String :=
  s!"starting run: n={n}, m={settings.m}, factr=" ++ general settings.factr ++ ", pgtol=" ++
    general settings.pgtol

def drive (c : Client σ) (v : Solver σ) (p : Problem) (s : RunState σ n) :
    RunState σ n × Except Error Status :=
  let s := s.log Level.debug (startLine n p.settings)
  match p.settings.callLimit with
  | .error f => (s, .error (.fault f))
  | .ok limit => loop c v p limit.wholePart (limit.room s.total) s

/-- Runs to an end and puts the result together. It goes on from the state it is given, which a
failed run leaves ready for the next one. -/
def run (c : Client σ) (v : Solver σ) (p : Problem) (s : RunState σ n) :
    RunState σ n × Except Error Result :=
  let (s, ending) := s.drive c v p
  (s, ending.bind (s.result v))

end RunState

end BoxMin
