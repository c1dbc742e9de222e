import BoxMin.Proofs.Run.Setup

/-!
What a run counts. At every call of the solver the two counters and the rows of the record are those
of the replies so far, and the record has room for one more iterate; so no limit is ever passed and
no row is refused.
-/

set_option autoImplicit false

namespace BoxMin

namespace RunState

variable {σ : Type} {n : Nat}

def replies (v : Solver σ) (p : Problem) (past : List (RunState σ n)) : List Task :=
  past.map (reply v p)

/-- The counters and the record in `s` are those of the turns before it. -/
structure Tally (v : Solver σ) (p : Problem) (o : Options) (past : List (RunState σ n))
    (s : RunState σ n) : Prop where
  outer : s.outer = (replies v p past).count .newX
  rows : s.history.size = s.outer
  total : s.total = past.length
  capacity : s.history.capacity = o.maxIts
  outputs : s.history.outputs = o.outputFcn.map .callable
  displays : s.history.displays = o.errFcn.map .callable
  width : ∀ row ∈ s.history.toList, row.length = 2 + o.outputFcn.length

variable {c : Client σ} {v : Solver σ} {p : Problem} {o : Options} {s t u w : RunState σ n}
  {past : List (RunState σ n)} {limit : Int} {k : Nat} {r : Progress}

theorem count_replies_snoc (past : List (RunState σ n)) (s : RunState σ n) (task : Task) :
    (replies v p (past ++ [s])).count task =
      (replies v p past).count task + if s.reply v p = task then 1 else 0 := by
  simp [replies, List.count_singleton]

theorem Tally.ofFresh (h : s.Fresh o) : Tally v p o [] s where
  outer := by simp [h.outer, replies]
  rows := by simp [h.history, h.outer, History.size]
  total := by simp [h.total]
  capacity := by simp [h.history]
  outputs := by simp [h.history]
  displays := by simp [h.history]
  width := by simp [h.history, History.toList]

theorem Tally.uncounted (h : Tally v p o past s) (hcall : (s.callSolver v p).2 = .ok ())
    (ht : s.reply v p ≠ .newX) (houter : u.outer = (s.told v p).outer)
    (htotal : u.total = (s.told v p).total) (hhistory : u.history = (s.told v p).history) :
    Tally v p o (past ++ [s]) u where
  outer := by rw [count_replies_snoc, houter]; simp [ht, h.outer]
  rows := by rw [houter, hhistory, told_outer, told_history]; exact h.rows
  total := by rw [htotal, told_total hcall]; simp [h.total]
  capacity := by rw [hhistory, told_history]; exact h.capacity
  outputs := by rw [hhistory, told_history]; exact h.outputs
  displays := by rw [hhistory, told_history]; exact h.displays
  width := by rw [hhistory, told_history]; exact h.width

theorem Tally.answered (h : Tally v p o past s) (hcall : (s.callSolver v p).2 = .ok ())
    (hu : Answered c p (s.told v p) u) : Tally v p o (past ++ [s]) u := by
  cases hu with
  | verdict ht =>
    obtain ⟨-, hiterate⟩ := Task.keepsRunning_eq_false_iff.mp ht
    exact h.uncounted hcall hiterate rfl rfl rfl
  | declared ht hdeclared => exact h.uncounted hcall (by simp [reply, ht]) rfl rfl rfl
  | evaluated ht hvalue hread => exact h.uncounted hcall (by simp [reply, ht]) rfl rfl rfl
  | noted ht hdisplay hcalls hpush =>
    obtain ⟨-, hwidth, rfl⟩ := History.push_eq_ok_iff.mp hpush
    have houtputs : (s.told v p).history.outputs = o.outputFcn.map .callable := by
      rw [told_history, h.outputs]
    constructor
    · rw [count_replies_snoc]; simp [reply, ht, h.outer]
    · simp only [History.size, Array.size_push, told_history, told_outer]
      exact congrArg (· + 1) h.rows
    · simp [told_total hcall, h.total]
    · simp [h.capacity]
    · exact houtputs
    · simp [h.displays]
    · intro row hrow
      simp only [History.toList, told_history, Array.toList_push, List.mem_append,
        List.mem_singleton] at hrow
      rcases hrow with hold | rfl
      · exact h.width row hold
      · rw [hwidth, History.width, houtputs, List.length_map]

theorem tally_invariant : Invariant (n := n) c v p (Tally v p o) where
  answered h hcall hu := h.answered hcall hu
  logged _ h := ⟨h.outer, h.rows, h.total, h.capacity, h.outputs, h.displays, h.width⟩

theorem Tally.room (h : Tally v p o past s) (hroom : s.outer < o.maxIts)
    (hlimit : p.settings.iterationLimit = o.maxIts) (ha : s.advance c v p = (w, .running)) :
    w.outer < o.maxIts := by
  have hcount := (tally_invariant.advance h ha (by simp)).outer
  rw [count_replies_snoc, ← h.outer] at hcount
  cases turn_of_advance ha with
  | going hcall ht hr hs hl =>
    -- only a reported iterate is checked against the limit, and only it moves the count
    by_cases hiterate : s.reply v p = .newX
    · have hbelow := hl hiterate
      omega
    · rw [if_neg hiterate] at hcount
      omega

/-- At each call the counts are right and there is room for an iterate. -/
theorem Course.tally (hc : Course c v p s past u) (hfresh : s.Fresh o) (hpos : 1 ≤ o.maxIts)
    (hlimit : p.settings.iterationLimit = o.maxIts) :
    Tally v p o past u ∧ u.outer < o.maxIts := by
  refine ⟨tally_invariant.course (.ofFresh hfresh) hc, ?_⟩
  induction hc with
  | start => rw [hfresh.outer]; omega
  | step hc ha ih => exact (tally_invariant.course (.ofFresh hfresh) hc).room ih hlimit ha

theorem Finish.tally {status : Status} {ts : List (RunState σ n)}
    (hf : Finish c v p limit k s ts w (.ok status)) (hfresh : s.Fresh o) (hpos : 1 ≤ o.maxIts)
    (hlimit : p.settings.iterationLimit = o.maxIts) :
    Tally v p o ts w ∧ w.outer ≤ o.maxIts ∧ ts.length ≤ k := by
  have htally := tally_invariant.finish (.ofFresh hfresh) hf
  refine ⟨htally, ?_⟩
  cases hf with
  | exhausted hc hk =>
    obtain ⟨-, hroom⟩ := hc.tally hfresh hpos hlimit
    exact ⟨Nat.le_of_lt hroom, by omega⟩
  | ended hc hk ha =>
    obtain ⟨hbefore, hroom⟩ := hc.tally hfresh hpos hlimit
    have hcount := htally.outer
    rw [count_replies_snoc, ← hbefore.outer] at hcount
    refine ⟨?_, by simp only [List.length_append, List.length_singleton]; omega⟩
    split at hcount <;> omega

theorem record_fits {e : Error} (hroom : t.history.size < t.history.capacity)
    (h : (t.record c).2 = .error e) :
    (∀ capacity, e ≠ .historyFull capacity) ∧ ∀ expected got, e ≠ .rowWidth expected got := by
  have hd := record_error (u := (t.record c).1) hroom (by rw [← h])
  rcases diagnose_error hd with rfl | rfl | ⟨f, cause, rfl⟩ <;> simp

end RunState

/-- At every call of the solver the counters are those of the replies so far and below their limits,
and the iterate that the call may report finds room for its row; a result holds the counts of all
turns. -/
theorem counts_within_limits {σ : Type} {c : Client σ} {v : Solver σ} {fcn lower upper : Value}
    {opts : Option Value} {watched : Bool} {cancel : Cancellation} {memory : σ} {a : Checked}
    {q : Prepared σ} (h : Starts v fcn lower upper opts watched cancel memory a q) :
    (∀ past s rest, q.turns c v = past ++ s :: rest →
      s.Tally v q.problem a.options past ∧ s.outer < a.options.maxIts ∧
      s.total < a.options.maxTotalIts ∧
      ∀ d, ({ s.told v q.problem with outer := (s.told v q.problem).outer + 1 }).display c q.problem =
          (d, .ok ()) →
        ∀ e, (d.record c).2 = .error e →
          (∀ capacity, e ≠ .historyFull capacity) ∧ ∀ expected got, e ≠ .rowWidth expected got) ∧
    ∀ r, (minimize c v fcn lower upper opts watched cancel memory).answer = .ok r →
      r.nit = (RunState.replies v q.problem (q.turns c v)).count .newX ∧
      r.history.length = r.nit ∧ r.nit ≤ a.options.maxIts ∧
      r.totalIts = (q.turns c v).length ∧ r.totalIts ≤ a.options.maxTotalIts ∧
      r.width = 2 + a.options.outputFcn.length ∧
      ∀ row ∈ r.history, row.length = 2 + a.options.outputFcn.length := by
  obtain ⟨hfresh, -⟩ := h.fresh
  obtain ⟨hpos, -⟩ := h.limits_pos
  constructor
  · intro past s rest hturns
    obtain ⟨hc, hlength⟩ := h.course hturns
    obtain ⟨htally, hroom⟩ := hc.tally hfresh hpos h.iterationLimit
    refine ⟨htally, hroom, by rw [htally.total]; exact hlength, ?_⟩
    intro d hd e he
    obtain ⟨shared, printed, rfl⟩ := RunState.display_eq hd
    refine RunState.record_fits ?_ he
    rw [RunState.told_history, htally.rows, htally.capacity]
    exact hroom
  · intro r hr
    obtain ⟨w, status, text, hfinish, -, rfl, -⟩ := h.result hr
    obtain ⟨htally, hnit, htotal⟩ := hfinish.tally hfresh hpos h.iterationLimit
    refine ⟨htally.outer, ?_, hnit, htally.total, ?_, ?_, htally.width⟩
    · simp only [RunState.summary, History.length_toList]
      exact htally.rows
    · show w.total ≤ a.options.maxTotalIts
      rw [htally.total]
      exact htotal
    · simp [RunState.summary, History.width, htally.outputs]

def oneRowScript : Script Reply :=
  .ofMoves [({ set := some [0.5] }, .requestFG), ({}, .newX)]

def oneRowOptions : Value :=
  .mapping [(.text "maxIts", .int 1), (.text "maxTotalIts", .int 2),
    (.text "outputFcn", .callable ⟨1, "stop", false⟩)]

theorem counts_within_limits_at_last_row :
    ∃ a q r, Rehearses oneRowScript oneRowOptions a q ∧
      (rehearse ⟨#[.squares, .cancelling [] 1]⟩ oneRowScript oneRowOptions).answer = .ok r ∧
      r.status = .infeasible ∧ r.nit = 1 ∧ r.totalIts = 2 ∧ r.history.length = r.nit := by
  obtain ⟨r, hr, hread⟩ : ∃ r : Result,
      (rehearse ⟨#[.squares, .cancelling [] 1]⟩ oneRowScript oneRowOptions).answer = .ok r ∧
      (r.status, r.nit, r.totalIts) = (.infeasible, 1, 2) :=
    exists_of_map_toOption (by decide +kernel)
  obtain ⟨a, q, h⟩ := Starts.of_answer hr
  obtain ⟨-, hresult⟩ := counts_within_limits h
  obtain ⟨-, hrows, -⟩ := hresult r hr
  simp only [Prod.mk.injEq] at hread
  exact ⟨a, q, r, h, hr, hread.1, hread.2.1, hread.2.2, hrows⟩

end BoxMin
