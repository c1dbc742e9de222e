import BoxMin.Proofs.Run.Counting

/-!
Why a run ends. `exit` says, from a reply and what was called to answer it, whether the run stops at
that call and as what; a run takes its turns up to the first that stops it, or up to its limit.
-/

set_option autoImplicit false

namespace BoxMin

namespace RunState

variable {σ : Type} {n : Nat}

def declares (c : Client σ) (v : Solver σ) (p : Problem) (s : RunState σ n) : Bool :=
  match (p.evaluator.call c (s.told v p).shared).2 with
  | .error (.signal (.infeasible _)) => true
  | _ => false

/-- The status with which the turn that begins in `s`, after those of `past`, stops a run of so many
iterates, if it does. -/
def exit (c : Client σ) (v : Solver σ) (p : Problem) (limit : Nat) (past : List (RunState σ n))
    (s : RunState σ n) : Option Status :=
  match s.reply v p with
  | .requestFG =>
    if s.declares c v p || (s.next c v p).cancelled p then some .infeasible else none
  | .newX =>
    if (s.next c v p).cancelled p then some .infeasible
    else if (replies v p (past ++ [s])).count .newX = limit then some .maxIter
    else none
  | task => some (.ofTask task)

variable {c : Client σ} {v : Solver σ} {p : Problem} {o : Options} {s t u w : RunState σ n}
  {past : List (RunState σ n)} {limit : Int} {k : Nat} {r : Progress}

theorem next_eq (ha : s.advance c v p = (w, r)) : s.next c v p = w := by
  rw [next, ha]

theorem exit_of_request (ht : s.reply v p = .requestFG) (limit : Nat) :
    s.exit c v p limit past =
      if s.declares c v p || (s.next c v p).cancelled p then some .infeasible else none := by
  simp [exit, ht]

theorem exit_of_iterate (ht : s.reply v p = .newX) (limit : Nat) :
    s.exit c v p limit past =
      if (s.next c v p).cancelled p then some .infeasible
      else if (replies v p (past ++ [s])).count .newX = limit then some .maxIter else none := by
  simp [exit, ht]

theorem exit_of_verdict (ht : (s.reply v p).keepsRunning = false) (limit : Nat) :
    s.exit c v p limit past = some (.ofTask (s.reply v p)) := by
  cases htask : s.reply v p <;> simp_all [exit, Task.keepsRunning]

theorem answered_declared (hd : s.declared = none) (hu : Answered c p (s.told v p) u) :
    u.declared = none ↔ (s.reply v p = .requestFG → s.declares c v p = false) := by
  cases hu with
  | verdict ht =>
    obtain ⟨hrequest, -⟩ := Task.keepsRunning_eq_false_iff.mp ht
    simp [hd, reply, hrequest]
  | declared ht hcall => simp [reply, ht, declares, hcall]
  | evaluated ht hcall hread => simp [reply, ht, declares, hcall, hd]
  | noted ht hdisplay hcalls hpush => simp [reply, ht, hd]

theorem respond_stopReason (hd : s.declared = none)
    (hr : (s.told v p).respond c p = (u, .ok ())) :
    u.stopReason p = none ↔
      (s.reply v p = .requestFG → s.declares c v p = false) ∧ u.cancelled p = false := by
  rw [stopReason_eq_none_iff, answered_declared hd (answered_of_respond hr)]

theorem exit_running (htally : Tally v p o past s)
    (hlimit : p.settings.iterationLimit = o.maxIts) (hd : s.declared = none)
    (ha : s.advance c v p = (w, .running)) : s.exit c v p o.maxIts past = none := by
  have hnext := next_eq ha
  cases turn_of_advance ha with
  | going hcall ht hr hs hl =>
    obtain ⟨hdeclares, hcancel⟩ := (respond_stopReason hd hr).mp hs
    rcases Task.keepsRunning_iff.mp ht with hrequest | hiterate
    · simp [exit_of_request hrequest, hdeclares hrequest, hnext, hcancel]
    · have hcount := (tally_invariant.advance htally ha (by simp)).outer
      have hbelow := hl hiterate
      have hne : (replies v p (past ++ [s])).count .newX ≠ o.maxIts := by omega
      simp [exit_of_iterate hiterate, hnext, hcancel, hne]

theorem exit_ended {status : Status} (htally : Tally v p o past s) (hroom : s.outer < o.maxIts)
    (hlimit : p.settings.iterationLimit = o.maxIts) (hd : s.declared = none)
    (ha : s.advance c v p = (w, .ended status)) : s.exit c v p o.maxIts past = some status := by
  have hnext := next_eq ha
  cases turn_of_advance ha with
  | verdict hcall ht => exact exit_of_verdict ht _
  | @stopped u reason hcall ht hr hs =>
    -- after a request the evaluator may be the reason; after an iterate only the cancellation is
    have hstop := mt (respond_stopReason hd hr).mpr (by simp [hs])
    rcases Task.keepsRunning_iff.mp ht with hrequest | hiterate
    · cases hdeclares : s.declares c v p with
      | true => simp [exit_of_request hrequest, hdeclares]
      | false =>
        have hcancel : u.cancelled p = true := by simpa [hdeclares] using hstop
        have hleft : (s.next c v p).cancelled p = true := hnext ▸ hcancel
        simp [exit_of_request hrequest, hleft]
    · have hcancel : u.cancelled p = true := by simpa [hiterate] using hstop
      have hleft : (s.next c v p).cancelled p = true := hnext ▸ hcancel
      simp [exit_of_iterate hiterate, hleft]
  | @last u hcall ht hr hs hl =>
    obtain ⟨-, hcancel⟩ := (respond_stopReason hd hr).mp hs
    have hleft : (s.next c v p).cancelled p = false := hnext ▸ hcancel
    have hcount : u.outer = _ := (tally_invariant.advance htally ha (by simp)).outer
    have hsofar := count_replies_snoc (v := v) (p := p) past s .newX
    rw [← htally.outer, if_pos ht] at hsofar
    have heq : (replies v p (past ++ [s])).count .newX = o.maxIts := by omega
    simp [exit_of_iterate ht, hleft, heq]

theorem Course.exit_none (hc : Course c v p s past u) (hfresh : s.Fresh o) (hpos : 1 ≤ o.maxIts)
    (hlimit : p.settings.iterationLimit = o.maxIts) {before rest : List (RunState σ n)}
    (hpast : past = before ++ t :: rest) : t.exit c v p o.maxIts before = none := by
  induction hc generalizing rest with
  | start => simp at hpast
  | @step past u w hc ha ih =>
    -- the turn in question is the last one of the course, or one before it
    obtain ⟨rfl, rfl, -⟩ | ⟨rest', hbefore⟩ := split_snoc hpast
    · obtain ⟨htally, -⟩ := hc.tally hfresh hpos hlimit
      exact exit_running htally hlimit (hc.declared hfresh.declared) ha
    · exact ih hbefore

theorem advance_reply (ha : s.advance c v p = (w, r)) (hr : ∀ e, r ≠ .failed e) :
    w.task = s.reply v p ∧ w.message = (s.told v p).message := by
  obtain ⟨-, u, logged, hu, rfl⟩ := answered_of_advance ha hr
  cases hu <;> exact ⟨rfl, rfl⟩

theorem advance_verdict (ha : s.advance c v p = (w, r)) (hr : ∀ e, r ≠ .failed e)
    (ht : (s.reply v p).keepsRunning = false) : w = s.told v p := by
  cases turn_of_advance ha with
  | refused | failed => exact absurd rfl (hr _)
  | verdict => rfl
  | stopped _ hkeeps _ _ => simp [ht] at hkeeps
  | last _ hiterate _ _ _ => simp [hiterate, Task.keepsRunning] at ht
  | going _ hkeeps _ _ _ => simp [ht] at hkeeps

theorem exit_last {x : RunState σ n} {status : Status} {ts : List (RunState σ n)}
    (htally : Tally v p o past u) (hroom : u.outer < o.maxIts)
    (hlimit : p.settings.iterationLimit = o.maxIts) (hd : u.declared = none)
    (ha : u.advance c v p = (x, r))
    (hr : r = .ended status ∨ r = .running ∧ status = .maxTotalIter ∧ ts.length = k) :
    status = (u.exit c v p o.maxIts past).getD .maxTotalIter ∧
      (u.exit c v p o.maxIts past = none → ts.length = k) := by
  rcases hr with rfl | ⟨rfl, rfl, hlength⟩
  · simp [exit_ended htally hroom hlimit hd ha]
  · simp [exit_running htally hlimit hd ha, hlength]

end RunState

/-- A run that gives a result ends at the first call that stops it, with the status of that stop, or
as out of calls at the last one allowed; the result is made of what the answer to that call left. -/
theorem exit_exact {σ : Type} {c : Client σ} {v : Solver σ} {fcn lower upper : Value}
    {opts : Option Value} {watched : Bool} {cancel : Cancellation} {memory : σ} {r : Result}
    (hr : (minimize c v fcn lower upper opts watched cancel memory).answer = .ok r) :
    ∃ a q, Starts v fcn lower upper opts watched cancel memory a q ∧
      ∃ past s, q.turns c v = past ++ [s] ∧
        r.totalIts = past.length + 1 ∧ r.totalIts ≤ a.options.maxTotalIts ∧
        (∀ before t rest, past = before ++ t :: rest →
          t.exit c v q.problem a.options.maxIts before = none) ∧
        r.status = (s.exit c v q.problem a.options.maxIts past).getD .maxTotalIter ∧
        (s.exit c v q.problem a.options.maxIts past = none →
          r.totalIts = a.options.maxTotalIts) ∧
        r.task = s.reply v q.problem ∧ r.message = (s.told v q.problem).message ∧
        ((s.reply v q.problem).keepsRunning = false →
          s.next c v q.problem = s.told v q.problem) ∧
        (s.next c v q.problem).result v r.status = .ok r ∧
        ∃ logged, minimize c v fcn lower upper opts watched cancel memory =
          ({ q with state := { s.next c v q.problem with logged } } : Prepared σ).outcome
            (.ok r) := by
  obtain ⟨a, q, h⟩ := Starts.of_answer hr
  obtain ⟨hfresh, -⟩ := h.fresh
  obtain ⟨hpos, hcalls⟩ := h.limits_pos
  have hlimit := h.iterationLimit
  obtain ⟨w, status, text, hfinish, htext, hresult, houtcome⟩ := h.result hr
  obtain ⟨htally, -, htotal⟩ := hfinish.tally hfresh hpos hlimit
  obtain ⟨past, s, x, progress, logged, hturns, hc, ha, hw, hfailed, hprogress⟩ :=
    hfinish.exists_last hcalls
  obtain ⟨hsofar, hroom⟩ := hc.tally hfresh hpos hlimit
  obtain ⟨hstatus, hexhausted⟩ :=
    RunState.exit_last hsofar hroom hlimit (hc.declared hfresh.declared) ha hprogress
  have hnext := RunState.next_eq ha
  obtain ⟨htask, hmessage⟩ := RunState.advance_reply ha hfailed
  have hlength : r.totalIts = (q.turns c v).length := by rw [hresult]; exact htally.total
  subst hw
  refine ⟨a, q, h, past, s, hturns, ?_, ?_, ?_, ?_, ?_, ?_, ?_, ?_, ?_, logged, ?_⟩
  · rw [hlength, hturns]; simp
  · rw [hlength]; exact htotal
  · intro before t rest hpast
    exact hc.exit_none hfresh hpos hlimit hpast
  · rw [hresult]; exact hstatus
  · intro hexit
    rw [hlength]
    exact hexhausted hexit
  · rw [hresult]; exact htask
  · rw [hresult]; exact hmessage
  · intro ht
    rw [hnext]
    exact RunState.advance_verdict ha hfailed ht
  · rw [hnext, hresult]
    exact map_eq_ok_iff.mpr ⟨text, htext, rfl⟩
  · rw [hnext]; exact houtcome

def quickScript : Script Reply :=
  .ofMoves [({ set := some [0.5] }, .requestFG), ({}, .convergence)]

/-- That solver, if no further call is allowed, is not reported as out of calls. -/
theorem exit_exact_at_last_call :
    ∃ r a q, Rehearses quickScript (.mapping [(.text "maxTotalIts", .int 2)]) a q ∧
      (rehearse ⟨#[.squares]⟩ quickScript (.mapping [(.text "maxTotalIts", .int 2)])).answer =
        .ok r ∧
      r.status = .converged ∧ r.totalIts = 2 ∧
      ∃ (past : List (RunState Memory q.n)) (s : RunState Memory q.n), past.length = 1 ∧
        s.exit (Cast.client ⟨#[.squares]⟩) (quickScript.solver "") q.problem a.options.maxIts past =
          some .converged := by
  obtain ⟨r, hr, hread⟩ : ∃ r : Result, (rehearse ⟨#[.squares]⟩ quickScript
      (.mapping [(.text "maxTotalIts", .int 2)])).answer = .ok r ∧
      (r.status, r.totalIts) = (.converged, 2) :=
    exists_of_map_toOption (by decide +kernel)
  simp only [Prod.mk.injEq] at hread
  obtain ⟨hstatus, htotal⟩ := hread
  obtain ⟨a, q, h, past, s, -, hlength, -, -, hexit, -⟩ := exit_exact hr
  refine ⟨r, a, q, h, hr, hstatus, htotal, past, s, by omega, ?_⟩
  rw [hstatus] at hexit
  cases hstop : s.exit (Cast.client ⟨#[.squares]⟩) (quickScript.solver "") q.problem
      a.options.maxIts past with
  | none => simp [hstop] at hexit
  | some status => simpa [hstop] using hexit.symm

end BoxMin
