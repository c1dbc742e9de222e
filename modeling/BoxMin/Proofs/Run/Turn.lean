import BoxMin.Proofs.History
import BoxMin.Run.Loop

/-!
One turn of a run: a call of the solver and what its reply leads to. `Turn` lists everything a turn
can come to, and the laws of runs are read off that list. Solver and client are arbitrary.
-/

set_option autoImplicit false

namespace BoxMin

def readEvaluation (n : Nat) (v : Value) : Option (Float × Vector Float n) :=
  match v.pair with
  | .error _ => none
  | .ok (fv, gv) =>
    match fv.toFloat, gradient n gv with
    | .ok f, .ok g => some (f, g)
    | _, _ => none

theorem Task.keepsRunning_iff {t : Task} : t.keepsRunning = true ↔ t = .requestFG ∨ t = .newX := by
  cases t <;> simp [keepsRunning]

theorem Task.keepsRunning_eq_false_iff {t : Task} :
    t.keepsRunning = false ↔ t ≠ .requestFG ∧ t ≠ .newX := by
  cases t <;> simp [keepsRunning]

theorem Error.isInterrupt_iff {e : Error} : e.isInterrupt = true ↔ e = .signal .interrupt := by
  cases e with
  | signal s => cases s <;> simp [isInterrupt]
  | _ => simp [isInterrupt]

namespace RunState

variable {σ : Type} {n : Nat}

def told (v : Solver σ) (p : Problem) (s : RunState σ n) : RunState σ n := (s.callSolver v p).1

def next (c : Client σ) (v : Solver σ) (p : Problem) (s : RunState σ n) : RunState σ n :=
  (s.advance c v p).1

def reply (v : Solver σ) (p : Problem) (s : RunState σ n) : Task := (s.told v p).task

def cancelled (p : Problem) (s : RunState σ n) : Bool := p.watched && s.shared.cancel.isSet

def note (c : Client σ) (p : Problem) (s : RunState σ n) : RunState σ n × Except Error Unit :=
  match ({ s with outer := s.outer + 1 }).display c p with
  | (d, .error e) => (d, .error e)
  | (d, .ok ()) => d.record c

def respond (c : Client σ) (p : Problem) (s : RunState σ n) : RunState σ n × Except Error Unit :=
  match s.task with
  | .requestFG => s.evaluate c p
  | .newX => s.note c p
  | _ => (s, .ok ())

section Frames

variable {c : Client σ} {v : Solver σ} {p : Problem} {s t u : RunState σ n}

@[simp] theorem told_f : (s.told v p).f = s.f := by
  unfold told callSolver; split <;> rfl

@[simp] theorem told_outer : (s.told v p).outer = s.outer := by
  unfold told callSolver; split <;> rfl

@[simp] theorem told_history : (s.told v p).history = s.history := by
  unfold told callSolver; split <;> rfl

@[simp] theorem told_printed : (s.told v p).printed = s.printed := by
  unfold told callSolver; split <;> rfl

@[simp] theorem told_declared : (s.told v p).declared = s.declared := by
  unfold told callSolver; split <;> rfl

theorem told_total (h : (s.callSolver v p).2 = .ok ()) : (s.told v p).total = s.total + 1 := by
  unfold told
  unfold callSolver at h ⊢
  split at h
  · cases h
  · rfl

theorem take_ok {w : Value} (h : t.take w = (u, .ok ())) :
    ∃ f g, readEvaluation n w = some (f, g) ∧ u = { t with f, g } := by
  unfold take at h
  split at h
  · cases h
  · rename_i fv gv hpair
    split at h
    · cases h
    · rename_i f hf
      split at h
      · cases h
      · rename_i g hg
        cases h
        exact ⟨f, g, by simp [readEvaluation, hpair, hf, hg], rfl⟩

theorem declare_of_error {reasons : List Value} {e : Fault}
    (h : infeasibleReason reasons = .error e) :
    t.declare reasons = (t, .error (.fault e)) := by
  unfold declare
  rw [h]

theorem declare_frame (t : RunState σ n) (reasons : List Value) :
    ∃ declared, (t.declare reasons).1 = { t with declared } := by
  unfold declare
  split <;> exact ⟨_, rfl⟩

theorem take_of_read {w : Value} {f : Float} {g : Vector Float n}
    (h : readEvaluation n w = some (f, g)) : t.take w = ({ t with f, g }, .ok ()) := by
  unfold readEvaluation at h
  unfold take
  rcases hpair : w.pair with e | ⟨fv, gv⟩
  · simp only [hpair] at h
    cases h
  · simp only [hpair] at h ⊢
    split at h
    · rename_i hf hg
      cases h
      simp only [hf, hg]
    · cases h

theorem evaluate_ok (h : t.evaluate c p = (u, .ok ())) :
    (∃ sh reasons reason,
      p.evaluator.call c t.shared = (sh, .error (.signal (.infeasible reasons))) ∧
      infeasibleReason reasons = .ok reason ∧
      u = { t with shared := sh, declared := some reason }) ∨
    ∃ sh w f g, p.evaluator.call c t.shared = (sh, .ok w) ∧ readEvaluation n w = some (f, g) ∧
      u = { t with shared := sh, f, g } := by
  unfold evaluate at h
  split at h
  · rename_i sh w hcall
    obtain ⟨f, g, hread, hu⟩ := take_ok h
    exact .inr ⟨sh, w, f, g, hcall, hread, hu⟩
  · rename_i sh reasons hcall
    unfold declare at h
    split at h
    · rename_i reason hreason
      cases h
      exact .inl ⟨sh, reasons, reason, hcall, hreason, rfl⟩
    · cases h
  · cases h

theorem take_frame (t : RunState σ n) (value : Value) :
    ∃ f g, (t.take value).1 = { t with f, g } := by
  unfold take
  repeat' split
  all_goals exact ⟨_, _, rfl⟩

theorem evaluate_of_error {sh : Shared σ n} {e : Error}
    (hcall : p.evaluator.call c t.shared = (sh, .error e))
    (he : ∀ reasons, e ≠ .signal (.infeasible reasons)) :
    t.evaluate c p = ({ t with shared := sh }, .error e) := by
  unfold evaluate
  rw [hcall]
  cases e with
  | signal s =>
    cases s with
    | infeasible reasons => exact absurd rfl (he reasons)
    | interrupt | failure => rfl
  | _ => rfl

theorem evaluate_of_declared {sh : Shared σ n} {reasons : List Value}
    (hcall : p.evaluator.call c t.shared = (sh, .error (.signal (.infeasible reasons)))) :
    t.evaluate c p = { t with shared := sh }.declare reasons := by
  unfold evaluate
  rw [hcall]

theorem evaluate_of_value {sh : Shared σ n} {value : Value}
    (hcall : p.evaluator.call c t.shared = (sh, .ok value)) :
    t.evaluate c p = { t with shared := sh }.take value := by
  unfold evaluate
  rw [hcall]

theorem evaluate_eq (t : RunState σ n) : ∃ f g declared, (t.evaluate c p).1 =
    { t with shared := (p.evaluator.call c t.shared).1, f, g, declared } := by
  rcases hcall : p.evaluator.call c t.shared with ⟨sh, e | value⟩
  · by_cases hdeclared : ∃ reasons, e = .signal (.infeasible reasons)
    · obtain ⟨reasons, rfl⟩ := hdeclared
      obtain ⟨declared, hdeclare⟩ := declare_frame { t with shared := sh } reasons
      exact ⟨t.f, t.g, declared, by rw [evaluate_of_declared hcall, hdeclare]⟩
    · have hother := evaluate_of_error hcall fun reasons he => hdeclared ⟨reasons, he⟩
      exact ⟨t.f, t.g, t.declared, by rw [hother]⟩
  · obtain ⟨f, g, htake⟩ := take_frame { t with shared := sh } value
    exact ⟨f, g, t.declared, by rw [evaluate_of_value hcall, htake]⟩

theorem evaluate_frame (t : RunState σ n) :
    (t.evaluate c p).1.shared = (p.evaluator.call c t.shared).1 ∧
      (t.evaluate c p).1.history = t.history := by
  obtain ⟨f, g, declared, h⟩ := t.evaluate_eq (c := c) (p := p)
  rw [h]
  exact ⟨rfl, rfl⟩

theorem display_eq {r : Except Error Unit} (h : t.display c p = (u, r)) :
    ∃ shared printed, u = { t with shared, printed } := by
  unfold display at h
  repeat' split at h
  all_goals cases h; exact ⟨_, _, rfl⟩

theorem record_of_error {sh : Shared σ n} {e : Error}
    (hd : c.diagnose (t.history.size + 1) t.history.outputs t.shared = (sh, .error e)) :
    t.record c = ({ t with shared := sh }, .error e) := by
  unfold record History.record
  rw [hd]

theorem record_of_ok {sh : Shared σ n} {extras : List Float}
    (hd : c.diagnose (t.history.size + 1) t.history.outputs t.shared = (sh, .ok extras)) :
    t.record c = match t.history.push (t.f :: infNorm t.g.toList :: extras) with
      | .error e => ({ t with shared := sh }, .error e)
      | .ok history => ({ t with shared := sh, history }, .ok ()) := by
  have happend := History.append_floats t.history t.f (infNorm t.g.toList :: extras)
  simp only [List.map_cons] at happend
  unfold record History.record
  simp only [hd, happend]
  cases t.history.push (t.f :: infNorm t.g.toList :: extras) <;> rfl

theorem record_ok (h : t.record c = (u, .ok ())) :
    ∃ shared extras history,
      c.diagnose (t.history.size + 1) t.history.outputs t.shared = (shared, .ok extras) ∧
      t.history.push (t.f :: infNorm t.g.toList :: extras) = .ok history ∧
      u = { t with shared, history } := by
  rcases hd : c.diagnose (t.history.size + 1) t.history.outputs t.shared with ⟨sh, e | extras⟩
  · simp [record_of_error hd] at h
  · rw [record_of_ok hd] at h
    cases hpush : t.history.push (t.f :: infNorm t.g.toList :: extras) with
    | error e => simp [hpush] at h
    | ok history =>
      simp only [hpush] at h
      cases h
      exact ⟨sh, extras, history, rfl, hpush, rfl⟩

theorem blame_eq (f : Value) (i : Nat) (e : Error) :
    Client.blame f i e = .signal .interrupt ∨ Client.blame f i e = .fault .unfit ∨
      Client.blame f i e = .callbackFailed f i e := by
  unfold Client.blame
  split
  · rename_i hinterrupt
    exact .inl (Error.isInterrupt_iff.mp hinterrupt)
  · split <;> simp

theorem diagnose_error {i : Nat} {fs : List Value} {a b : Shared σ n} {e : Error}
    (h : c.diagnose i fs a = (b, .error e)) :
    e = .signal .interrupt ∨ e = .fault .unfit ∨ ∃ f cause, e = .callbackFailed f i cause := by
  induction fs generalizing a with
  | nil => simp [Client.diagnose] at h
  | cons f fs ih =>
    unfold Client.diagnose at h
    split at h
    · rename_i e' hcall
      cases h
      exact (blame_eq f i e').imp_right (.imp_right fun hblame => ⟨f, e', hblame⟩)
    · split at h
      · cases h
        exact .inr (.inr ⟨f, _, rfl⟩)
      · split at h
        · rename_i hrest
          cases h
          exact ih hrest
        · cases h

/-- With room for a row, a record fails only because a diagnostic does. -/
theorem record_error {e : Error} (hroom : t.history.size < t.history.capacity)
    (h : t.record c = (u, .error e)) :
    c.diagnose (t.history.size + 1) t.history.outputs t.shared = (u.shared, .error e) := by
  rcases hd : c.diagnose (t.history.size + 1) t.history.outputs t.shared with ⟨sh, e' | extras⟩
  · rw [record_of_error hd] at h
    cases h
    rfl
  · have hlength := c.diagnose_length _ _ _ _ _ hd
    have hwidth : (t.f :: infNorm t.g.toList :: extras).length = t.history.width := by
      simp only [List.length_cons, History.width]; omega
    rw [record_of_ok hd, History.push_eq_ok_iff.mpr ⟨hroom, hwidth, rfl⟩] at h
    simp at h

theorem note_ok (h : t.note c p = (u, .ok ())) :
    ∃ shown shared extras history printed,
      ({ t with outer := t.outer + 1 }).display c p =
        ({ t with shared := shown, outer := t.outer + 1, printed }, .ok ()) ∧
      c.diagnose (t.history.size + 1) t.history.outputs shown = (shared, .ok extras) ∧
      t.history.push (t.f :: infNorm t.g.toList :: extras) = .ok history ∧
      u = { t with shared, outer := t.outer + 1, history, printed } := by
  unfold note at h
  split at h
  · cases h
  · rename_i d hdisplay
    obtain ⟨shown, printed, rfl⟩ := display_eq hdisplay
    obtain ⟨shared, extras, history, hcalls, hpush, rfl⟩ := record_ok h
    exact ⟨shown, shared, extras, history, printed, hdisplay, hcalls, hpush, rfl⟩

theorem respond_request (ht : t.task = .requestFG) : t.respond c p = t.evaluate c p := by
  simp [respond, ht]

theorem respond_iterate (ht : t.task = .newX) : t.respond c p = t.note c p := by
  simp [respond, ht]

theorem respond_verdict (ht : t.task.keepsRunning = false) : t.respond c p = (t, .ok ()) := by
  cases htask : t.task <;> simp_all [respond, Task.keepsRunning]

theorem checkStop_frame (t : RunState σ n) : ∃ logged, (t.checkStop p).1 = { t with logged } := by
  unfold checkStop
  split <;> exact ⟨_, rfl⟩

theorem stopReason_eq_none_iff :
    t.stopReason p = none ↔ t.declared = none ∧ t.cancelled p = false := by
  unfold stopReason cancelled Cancellation.isSet
  cases t.declared <;> cases p.watched <;> cases t.shared.cancel.reason <;> simp

end Frames

/-- What the calls that a reply leads to make of a state, if none of them fails. -/
inductive Answered (c : Client σ) (p : Problem) (t : RunState σ n) : RunState σ n → Prop where
  | verdict (ht : t.task.keepsRunning = false) : Answered c p t t
  | declared {sh : Shared σ n} {reasons : List Value} {reason : String} (ht : t.task = .requestFG)
      (hcall : p.evaluator.call c t.shared = (sh, .error (.signal (.infeasible reasons))))
      (hreason : infeasibleReason reasons = .ok reason) :
      Answered c p t { t with shared := sh, declared := some reason }
  | evaluated {sh : Shared σ n} {value : Value} {f : Float} {g : Vector Float n}
      (ht : t.task = .requestFG) (hcall : p.evaluator.call c t.shared = (sh, .ok value))
      (hread : readEvaluation n value = some (f, g)) :
      Answered c p t { t with shared := sh, f, g }
  | noted {shown sh : Shared σ n} {extras : List Float} {history : History}
      {printed : Array String} (ht : t.task = .newX)
      (hdisplay : ({ t with outer := t.outer + 1 }).display c p =
        ({ t with shared := shown, outer := t.outer + 1, printed }, .ok ()))
      (hcalls : c.diagnose (t.history.size + 1) t.history.outputs shown = (sh, .ok extras))
      (hpush : t.history.push (t.f :: infNorm t.g.toList :: extras) = .ok history) :
      Answered c p t { t with shared := sh, outer := t.outer + 1, history, printed }

theorem answered_of_respond {c : Client σ} {p : Problem} {t u : RunState σ n}
    (h : t.respond c p = (u, .ok ())) : Answered c p t u := by
  cases hkeeps : t.task.keepsRunning with
  | false =>
    rw [respond_verdict hkeeps] at h
    cases h
    exact .verdict hkeeps
  | true =>
    rcases Task.keepsRunning_iff.mp hkeeps with ht | ht
    · rw [respond_request ht] at h
      rcases evaluate_ok h with ⟨sh, reasons, reason, hcall, hreason, rfl⟩ |
        ⟨sh, value, f, g, hcall, hread, rfl⟩
      · exact .declared ht hcall hreason
      · exact .evaluated ht hcall hread
    · rw [respond_iterate ht] at h
      obtain ⟨shown, sh, extras, history, printed, hdisplay, hcalls, hpush, rfl⟩ := note_ok h
      exact .noted ht hdisplay hcalls hpush

/-- What a turn that begins in `s` can come to. -/
inductive Turn (c : Client σ) (v : Solver σ) (p : Problem) (s : RunState σ n) :
    RunState σ n → Progress → Prop where
  | refused {e : Error} (h : (s.callSolver v p).2 = .error e) :
      Turn c v p s (s.told v p) (.failed e)
  | verdict (h : (s.callSolver v p).2 = .ok ()) (ht : (s.reply v p).keepsRunning = false) :
      Turn c v p s (s.told v p) (.ended (.ofTask (s.reply v p)))
  | failed {u : RunState σ n} {e : Error} (h : (s.callSolver v p).2 = .ok ())
      (ht : (s.reply v p).keepsRunning = true) (hr : (s.told v p).respond c p = (u, .error e)) :
      Turn c v p s u (.failed e)
  | stopped {u : RunState σ n} {reason : Value} (h : (s.callSolver v p).2 = .ok ())
      (ht : (s.reply v p).keepsRunning = true) (hr : (s.told v p).respond c p = (u, .ok ()))
      (hs : u.stopReason p = some reason) :
      Turn c v p s (u.logStop reason) (.ended .infeasible)
  | last {u : RunState σ n} (h : (s.callSolver v p).2 = .ok ()) (ht : s.reply v p = .newX)
      (hr : (s.told v p).respond c p = (u, .ok ())) (hs : u.stopReason p = none)
      (hl : p.settings.iterationLimit ≤ u.outer) :
      Turn c v p s
        (u.log Level.info s!"Maxed-out iteration counter ({p.settings.iterationLimit}), exiting")
        (.ended .maxIter)
  | going {u : RunState σ n} (h : (s.callSolver v p).2 = .ok ())
      (ht : (s.reply v p).keepsRunning = true) (hr : (s.told v p).respond c p = (u, .ok ()))
      (hs : u.stopReason p = none)
      (hl : s.reply v p = .newX → u.outer < p.settings.iterationLimit) :
      Turn c v p s u .running

theorem advance_of_error {c : Client σ} {v : Solver σ} {p : Problem} {s : RunState σ n} {e : Error}
    (h : (s.callSolver v p).2 = .error e) : s.advance c v p = (s.told v p, .failed e) := by
  unfold advance told
  split <;> simp_all

theorem advance_of_ok {c : Client σ} {v : Solver σ} {p : Problem} {s : RunState σ n}
    (h : (s.callSolver v p).2 = .ok ()) : s.advance c v p = (s.told v p).answer c p := by
  unfold advance told
  split <;> simp_all

theorem acceptIterate_eq (c : Client σ) (p : Problem) (t : RunState σ n) :
    t.acceptIterate c p = match t.note c p with
      | (u, .error e) => (u, .failed e)
      | (u, .ok ()) => match u.checkStop p with
        | (u, .running) => u.checkLimit p
        | ended => ended := by
  unfold acceptIterate note
  rcases hd : ({ t with outer := t.outer + 1 }).display c p with ⟨d, e | _⟩
  · simp only [hd]
  · rcases hr : d.record c with ⟨u, e | _⟩
    · simp only [hd, hr]
    · rcases hs : u.checkStop p with ⟨w, _ | _ | _⟩ <;> simp only [hd, hr, hs]

theorem checkStop_turn {c : Client σ} {v : Solver σ} {p : Problem} {s u : RunState σ n}
    (h : (s.callSolver v p).2 = .ok ()) (ht : (s.reply v p).keepsRunning = true)
    (hr : (s.told v p).respond c p = (u, .ok ()))
    (hl : s.reply v p = .newX → u.outer < p.settings.iterationLimit) :
    Turn c v p s (u.checkStop p).1 (u.checkStop p).2 := by
  unfold checkStop
  cases hs : u.stopReason p with
  | none => exact .going h ht hr hs hl
  | some reason => exact .stopped h ht hr hs

theorem turn_advance (c : Client σ) (v : Solver σ) (p : Problem) (s : RunState σ n) :
    Turn c v p s (s.advance c v p).1 (s.advance c v p).2 := by
  cases h : (s.callSolver v p).2 with
  | error e =>
    rw [advance_of_error h]
    exact .refused h
  | ok =>
    rw [advance_of_ok h]
    unfold answer
    split
    · rename_i htask
      have ht : (s.reply v p).keepsRunning = true := by simp [reply, htask, Task.keepsRunning]
      have hrespond := respond_request (c := c) (p := p) htask
      unfold answerRequest
      rcases hr : (s.told v p).evaluate c p with ⟨u, e | _⟩
      · exact .failed h ht (hrespond.trans hr)
      · exact checkStop_turn h ht (hrespond.trans hr) (by simp [reply, htask])
    · rename_i htask
      have ht : (s.reply v p).keepsRunning = true := by simp [reply, htask, Task.keepsRunning]
      have hrespond := respond_iterate (c := c) (p := p) htask
      rw [acceptIterate_eq]
      rcases hr : (s.told v p).note c p with ⟨u, e | _⟩
      · exact .failed h ht (hrespond.trans hr)
      · cases hs : u.stopReason p with
        | some reason =>
          simp only [checkStop, hs]
          exact .stopped h ht (hrespond.trans hr) hs
        | none =>
          simp only [checkStop, hs, checkLimit]
          split
          · rename_i hl
            exact .last h htask (hrespond.trans hr) hs hl
          · rename_i hl
            exact .going h ht (hrespond.trans hr) hs (fun _ => Int.not_le.mp hl)
    · rename_i hrequest hiterate
      have ht : (s.reply v p).keepsRunning = false := by
        unfold reply
        cases htask : (s.told v p).task <;> simp_all [Task.keepsRunning]
      exact .verdict h ht

theorem turn_of_advance {c : Client σ} {v : Solver σ} {p : Problem} {s w : RunState σ n}
    {r : Progress} (h : s.advance c v p = (w, r)) : Turn c v p s w r := by
  have hturn := turn_advance c v p s
  rwa [h] at hturn

theorem respond_of_advance {c : Client σ} {v : Solver σ} {p : Problem} {s w : RunState σ n}
    {r : Progress} (h : s.advance c v p = (w, r)) (hr : ∀ e, r ≠ .failed e) :
    (s.callSolver v p).2 = .ok () ∧
      ∃ u logged, (s.told v p).respond c p = (u, .ok ()) ∧ w = { u with logged } := by
  cases turn_of_advance h with
  | refused hcall => exact absurd rfl (hr _)
  | verdict hcall ht => exact ⟨hcall, _, _, respond_verdict ht, rfl⟩
  | failed hcall ht hrespond => exact absurd rfl (hr _)
  | @stopped u reason hcall ht hrespond hs => exact ⟨hcall, u, _, hrespond, rfl⟩
  | last hcall ht hrespond hs hl => exact ⟨hcall, _, _, hrespond, rfl⟩
  | going hcall ht hrespond hs hl => exact ⟨hcall, w, _, hrespond, rfl⟩

theorem answered_of_advance {c : Client σ} {v : Solver σ} {p : Problem} {s w : RunState σ n}
    {r : Progress} (h : s.advance c v p = (w, r)) (hr : ∀ e, r ≠ .failed e) :
    (s.callSolver v p).2 = .ok () ∧
      ∃ u logged, Answered c p (s.told v p) u ∧ w = { u with logged } := by
  obtain ⟨hcall, u, logged, hrespond, rfl⟩ := respond_of_advance h hr
  exact ⟨hcall, u, logged, answered_of_respond hrespond, rfl⟩

theorem declared_of_advance {c : Client σ} {v : Solver σ} {p : Problem} {s w : RunState σ n}
    {r : Progress} (hd : s.declared = none) (h : s.advance c v p = (w, r))
    (hr : ∀ e, r ≠ .failed e) (hi : r ≠ .ended .infeasible) : w.declared = none := by
  cases turn_of_advance h with
  | refused | failed => exact absurd rfl (hr _)
  | verdict hcall ht => exact told_declared.trans hd
  | stopped hcall ht hrespond hs => exact absurd rfl hi
  | last hcall ht hrespond hs hl => exact (stopReason_eq_none_iff.mp hs).1
  | going hcall ht hrespond hs hl => exact (stopReason_eq_none_iff.mp hs).1

end RunState

end BoxMin
