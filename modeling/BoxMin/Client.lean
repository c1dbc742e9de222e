import BoxMin.Cancellation
import BoxMin.Error
import BoxMin.Value.Reading

/-!
The caller's code. A client answers calls of the callables it handed over; while it runs it may
move the point it is shown, set or clear the cancellation, and use a memory of its own. Nothing
else is assumed of it.
-/

set_option autoImplicit false

namespace BoxMin

/-- What the caller's code can reach while it runs. -/
structure Shared (σ : Type) (n : Nat) where
  x : Vector Float n
  cancel : Cancellation
  memory : σ

/-- Lets code run at a point given as a list; what is left of it is its cancellation and memory. -/
def Shared.atPoint {σ α : Type} (xs : List Float) (cancel : Cancellation) (memory : σ)
    (run : {n : Nat} → Shared σ n → Shared σ n × α) : Cancellation × σ × α :=
  let (s, a) := run (⟨⟨xs.toArray, rfl⟩, cancel, memory⟩ : Shared σ xs.toArray.size)
  (s.cancel, s.memory, a)

structure Client (σ : Type) where
  call : {n : Nat} → Callable → Shared σ n → Shared σ n × Except Error Value

namespace Client

variable {σ : Type} {n : Nat}

def callValue (c : Client σ) (f : Value) (s : Shared σ n) : Shared σ n × Except Error Value :=
  match f with
  | .callable f => c.call f s
  | _ => (s, .error (.fault .wrongKind))

/-- A failure inside a diagnostic, unless the user interrupts, is reported as its failure. What
cannot be written out cannot be reported either. -/
def blame (f : Value) (iteration : Nat) (e : Error) : Error :=
  if e.isInterrupt then e
  else if f.isWritable then .callbackFailed f iteration e
  else .fault .unfit

def diagnose (c : Client σ) (iteration : Nat) :
    List Value → Shared σ n → Shared σ n × Except Error (List Float)
  | [], s => (s, .ok [])
  | f :: fs, s =>
    match c.callValue f s with
    | (s, .error e) => (s, .error (blame f iteration e))
    | (s, .ok v) =>
      match v.toFloat with
      | .error e => (s, .error (.callbackFailed f iteration (.fault e)))
      | .ok y =>
        match c.diagnose iteration fs s with
        | (s, .error e) => (s, .error e)
        | (s, .ok ys) => (s, .ok (y :: ys))

theorem diagnose_length (c : Client σ) (iteration : Nat) (fs : List Value) (s s' : Shared σ n)
    (ys : List Float) (h : c.diagnose iteration fs s = (s', .ok ys)) : ys.length = fs.length := by
  induction fs generalizing s s' ys with
  | nil => simp_all [diagnose]
  | cons f fs ih =>
    simp only [diagnose] at h
    split at h
    · simp at h
    · split at h
      · simp at h
      · split at h
        · simp at h
        · rename_i hd
          simp only [Prod.mk.injEq, Except.ok.injEq] at h
          rw [← h.2, List.length_cons, List.length_cons, ih _ _ _ hd]

end Client

inductive Evaluator where
  | joint (f : Value)
  | pair (objective gradient : Value)

namespace Evaluator

def ofValue (v : Value) : Except Error Evaluator :=
  match v with
  | .list vs | .tuple vs => match vs with
    | [f, g] => if f.isCallable && g.isCallable then .ok (.pair f g) else .error .notCallablePair
    | _ => .error .notCallablePair
  | .callable c => .ok (.joint (.callable c))
  | v => .error (.notEvaluator v.kindName)

def isSame (e : Evaluator) (v : Value) : Bool :=
  match e, v with
  | .joint (.callable c), .callable d => c = d
  | _, _ => false

variable {σ : Type} {n : Nat}

def call (e : Evaluator) (c : Client σ) (s : Shared σ n) : Shared σ n × Except Error Value :=
  match e with
  | .joint f => c.callValue f s
  | .pair f g =>
    match c.callValue f s with
    | (s, .error e) => (s, .error e)
    | (s, .ok u) =>
      match c.callValue g s with
      | (s, .error e) => (s, .error e)
      | (s, .ok v) => (s, .ok (.tuple [u, v]))

end Evaluator

end BoxMin
