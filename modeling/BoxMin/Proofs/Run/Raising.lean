import BoxMin.Proofs.Run.Exit
import BoxMin.Proofs.Run.Noting

/-!
What becomes of the exceptions that solver, evaluator and diagnostics raise. `Raises` lists the ways
in which a turn can fail; a turn fails in exactly one of them, and then the run fails with it.
-/

set_option autoImplicit false

namespace BoxMin

theorem Client.blame_of_ne_interrupt {e : Error} (he : e ≠ .signal .interrupt) (f : Callable)
    (i : Nat) : blame (.callable f) i e = .callbackFailed (.callable f) i e := by
  rw [blame, if_neg (mt Error.isInterrupt_iff.mp he)]
  rfl

namespace RunState

variable {σ : Type} {n : Nat}

/-- The turn that begins in `s` fails with an error, and the failed call leaves this. If the solver
reports an iterate, it is the `k`-th. -/
inductive Raises (c : Client σ) (v : Solver σ) (p : Problem) (o : Options) (k : Nat)
    (s : RunState σ n) : Error → Shared σ n → Prop where
  | solver {b : Buffers n} {memory : σ} {e : Error}
      (hstep : v.step (s.query p) s.buffers s.shared.memory = (b, memory, .error e)) :
      Raises c v p o k s e ⟨b.x, s.shared.cancel, memory⟩
  | evaluator {e : Error} {t : Shared σ n} (hstep : (s.callSolver v p).2 = .ok ())
      (ht : s.reply v p = .requestFG)
      (hcall : p.evaluator.call c (s.told v p).shared = (t, .error e))
      (he : ∀ reasons, e ≠ .signal (.infeasible reasons)) : Raises c v p o k s e t
  /-- The evaluator declares the point infeasible, for reasons that cannot be written out. -/
  | unworded {reasons : List Value} {fault : Fault} {t : Shared σ n}
      (hstep : (s.callSolver v p).2 = .ok ()) (ht : s.reply v p = .requestFG)
      (hcall : p.evaluator.call c (s.told v p).shared =
        (t, .error (.signal (.infeasible reasons))))
      (hreason : infeasibleReason reasons = .error fault) : Raises c v p o k s (.fault fault) t
  /-- The evaluator answers with what holds no f and g. -/
  | unread {value : Value} {e : Error} {t : Shared σ n} (hstep : (s.callSolver v p).2 = .ok ())
      (ht : s.reply v p = .requestFG)
      (hcall : p.evaluator.call c (s.told v p).shared = (t, .ok value))
      (hread : ({ s.told v p with shared := t }.take value).2 = .error e) : Raises c v p o k s e t
  | diagnostic {f : Callable} {cause : Error} {t : Shared σ n}
      (hstep : (s.callSolver v p).2 = .ok ()) (ht : s.reply v p = .newX)
      (hf : o.Fails c k (s.told v p).shared f cause t) (hcause : cause ≠ .signal .interrupt) :
      Raises c v p o k s (.callbackFailed (.callable f) k cause) t
  | interrupted {f : Callable} {t : Shared σ n} (hstep : (s.callSolver v p).2 = .ok ())
      (ht : s.reply v p = .newX) (hf : o.Fails c k (s.told v p).shared f (.signal .interrupt) t) :
      Raises c v p o k s (.signal .interrupt) t

variable {c : Client σ} {v : Solver σ} {p : Problem} {o : Options} {s t u w : RunState σ n}
  {past : List (RunState σ n)} {e : Error} {sh : Shared σ n}

theorem advance_of_respond_error (hstep : (s.callSolver v p).2 = .ok ())
    (hr : (s.told v p).respond c p = (u, .error e)) : s.advance c v p = (u, .failed e) := by
  rcases ha : s.advance c v p with ⟨w, r⟩
  cases turn_of_advance ha with
  | refused hcall => simp [hstep] at hcall
  | verdict _ ht => simp [respond_verdict ht] at hr
  | failed _ _ hrespond =>
    rw [hr] at hrespond
    cases hrespond
    rfl
  | stopped _ _ hrespond | last _ _ hrespond | going _ _ hrespond => simp [hr] at hrespond

section Turns

variable (htally : Tally v p o past s)
  (hcadence : p.settings.cadence = .ok (.whole o.printEvery))
include htally hcadence

theorem Raises.advance (h : s.Raises c v p o ((replies v p past).count .newX + 1) e sh) :
    ∃ w, s.advance c v p = (w, .failed e) ∧ w.shared = sh ∧ w.history = s.history := by
  have hkept := htally.kept hcadence
  obtain ⟨houter, hrows⟩ := htally.told_counts
  cases h with
  | @solver b memory _ hstep =>
    have hcall : s.callSolver v p = (s.withBuffers b memory, .error e) := by
      unfold callSolver
      rw [hstep]
    refine ⟨s.told v p, advance_of_error (by rw [hcall]), ?_, told_history⟩
    rw [told, hcall]
    rfl
  | evaluator hstep ht hcall he =>
    have hr := evaluate_of_error hcall he
    rw [← respond_request ht] at hr
    exact ⟨_, advance_of_respond_error hstep hr, rfl, told_history⟩
  | unworded hstep ht hcall hreason =>
    have hr := evaluate_of_declared hcall
    rw [declare_of_error hreason, ← respond_request ht] at hr
    exact ⟨_, advance_of_respond_error hstep hr, rfl, told_history⟩
  | @unread value _ _ hstep ht hcall hread =>
    have hr := evaluate_of_value hcall
    rw [← respond_request ht] at hr
    obtain ⟨f, g, htake⟩ := take_frame { s.told v p with shared := sh } value
    exact ⟨_, advance_of_respond_error hstep (hr.trans (Prod.ext htake hread)), rfl, told_history⟩
  | @diagnostic f cause _ hstep ht hf hcause =>
    obtain ⟨printed, hr⟩ := note_of_fails hkept (houter ▸ hf)
    rw [hrows, Client.blame_of_ne_interrupt hcause, ← respond_iterate ht] at hr
    exact ⟨_, advance_of_respond_error hstep hr, rfl, told_history⟩
  | interrupted hstep ht hf =>
    obtain ⟨printed, hr⟩ := note_of_fails hkept (houter ▸ hf)
    rw [← respond_iterate ht] at hr
    exact ⟨_, advance_of_respond_error hstep hr, rfl, told_history⟩

end Turns

end RunState

namespace Starts

variable {σ : Type} {c : Client σ} {v : Solver σ} {fcn lower upper : Value} {opts : Option Value}
  {watched : Bool} {cancel : Cancellation} {memory : σ} {a : Checked} {q : Prepared σ}

theorem cadence (h : Starts v fcn lower upper opts watched cancel memory a q) :
    q.problem.settings.cadence = .ok (.whole a.options.printEvery) := by
  obtain ⟨-, hsettings, -, -⟩ := h.fresh
  rw [hsettings]
  rfl

variable {w : RunState σ q.n} {final : Except Error Status}

end Starts

def Outcome.refusal? {σ : Type} (o : Outcome σ) : Option (Callable × Nat) :=
  match o.answer with
  | .error (.callbackFailed (.callable f) k (.signal (.infeasible []))) => some (f, k)
  | _ => none

end BoxMin
