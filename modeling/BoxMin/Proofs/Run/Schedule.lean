import BoxMin.Proofs.Run.Exit
import BoxMin.Proofs.Run.Noting

/-!
When diagnostics are called and lines printed: with the iterates, in this order and at no other
time. The lines that are due with every so many iterates are all the lines there are, and each shows
f and the norm of g as the row of its iterate has them.
-/

set_option autoImplicit false

namespace BoxMin

namespace RunState

variable {σ : Type} {n : Nat}

def shown (c : Client σ) (v : Solver σ) (p : Problem) (s : RunState σ n) : RunState σ n :=
  ((s.told v p).counted.display c p).1

/-- The turn that begins in `s` notes the `k`-th iterate. The shown diagnostics are called and the
line is printed before the recorded diagnostics are called and the row is added. -/
structure Notes (c : Client σ) (v : Solver σ) (p : Problem) (o : Options) (s : RunState σ n)
    (k : Nat) (errors extras : List Float) : Prop where
  observed : o.Observed c k (s.told v p).shared errors (s.shown c v p).shared extras
    (s.next c v p).shared
  shown : (s.shown c v p).printed =
    if o.LineDue k then
      s.printed.push (progressLine k (s.told v p).f (infNorm (s.told v p).g.toList) errors)
    else s.printed
  unrecorded : (s.shown c v p).history = s.history
  printed : (s.next c v p).printed = (s.shown c v p).printed
  recorded : (s.next c v p).history.toList = s.history.toList ++ [(s.told v p).row extras]

/-- The turn that begins in `s` prints and records nothing, and calls nothing but the evaluator. -/
structure Quiet (c : Client σ) (v : Solver σ) (p : Problem) (s : RunState σ n) : Prop where
  printed : (s.next c v p).printed = s.printed
  history : (s.next c v p).history = s.history
  shared : (s.next c v p).shared =
    if s.reply v p = .requestFG then (p.evaluator.call c (s.told v p).shared).1
    else (s.told v p).shared

variable {c : Client σ} {v : Solver σ} {p : Problem} {o : Options} {s t u w : RunState σ n}
  {past : List (RunState σ n)} {limit : Int} {k : Nat} {r : Progress}

theorem notes_of_advance (htally : Tally v p o past s) (hroom : s.outer < o.maxIts)
    (hcadence : p.settings.cadence = .ok (.whole o.printEvery)) (ht : s.reply v p = .newX)
    (ha : s.advance c v p = (w, r)) (hr : ∀ e, r ≠ .failed e) :
    ∃ errors extras, s.Notes c v p o ((replies v p past).count .newX + 1) errors extras := by
  have hkept := htally.kept hcadence
  obtain ⟨houter, -⟩ := htally.told_counts
  obtain ⟨-, u, logged, hrespond, hw⟩ := respond_of_advance ha hr
  rw [respond_iterate ht] at hrespond
  obtain ⟨errors, shown, extras, sh, ho⟩ | ⟨f, e, sh, hf⟩ :=
    o.observed_or_fails c ((s.told v p).outer + 1) (s.told v p).shared
  · have hdisplay := display_of_observed (t := (s.told v p).counted) hkept ho
    rw [note_of_observed hkept (htally.history_room hroom) ho] at hrespond
    cases hrespond
    have hshown : s.shown c v p = _ := congrArg Prod.fst hdisplay
    rw [← houter]
    refine ⟨errors, extras, ?_, ?_, ?_, ?_, ?_⟩
    · rw [hshown, next_eq ha, hw]
      exact ho
    · rw [hshown]
      simp only [counted, line, told_printed]
    · rw [hshown]
      exact told_history
    · rw [hshown, next_eq ha, hw]
      rfl
    · rw [next_eq ha, hw]
      simp only [History.toList, told_history, Array.toList_push]
  · obtain ⟨printed, hnote⟩ := note_of_fails hkept hf
    rw [hnote] at hrespond
    cases hrespond

theorem quiet_of_advance (ht : s.reply v p ≠ .newX) (ha : s.advance c v p = (w, r))
    (hr : ∀ e, r ≠ .failed e) : s.Quiet c v p := by
  obtain ⟨-, u, logged, hu, rfl⟩ := answered_of_advance ha hr
  have hnext := next_eq ha
  cases hu with
  | verdict hverdict =>
    obtain ⟨hrequest, -⟩ := Task.keepsRunning_eq_false_iff.mp hverdict
    exact ⟨by simp [hnext], by simp [hnext], by simp [hnext, reply, hrequest]⟩
  | declared hrequest hcall =>
    exact ⟨by simp [hnext], by simp [hnext], by simp [hnext, reply, hrequest, hcall]⟩
  | evaluated hrequest hcall hread =>
    exact ⟨by simp [hnext], by simp [hnext], by simp [hnext, reply, hrequest, hcall]⟩
  | noted hiterate => exact absurd hiterate ht

/-- What the turns of `past` have printed and recorded, in a state after them. -/
structure Scheduled (c : Client σ) (v : Solver σ) (p : Problem) (o : Options)
    (past : List (RunState σ n)) (s : RunState σ n) : Prop where
  noted : ∀ before u rest, past = before ++ u :: rest → u.reply v p = .newX →
    ∃ errors extras, u.Notes c v p o ((replies v p before).count .newX + 1) errors extras ∧
      s.history.toList[(replies v p before).count .newX]? = some ((u.told v p).row extras) ∧
      (o.LineDue ((replies v p before).count .newX + 1) →
        s.printed.toList[((replies v p before).count .newX + 1) / o.printEvery - 1]? =
          some (progressLine ((replies v p before).count .newX + 1 : Nat) (u.told v p).f
            (infNorm (u.told v p).g.toList) errors))
  quiet : ∀ u ∈ past, u.reply v p ≠ .newX → u.Quiet c v p
  lines : s.printed.size = (replies v p past).count .newX / o.printEvery

theorem Scheduled.logged (h : Scheduled c v p o past s) (logged : Array LogEntry) :
    Scheduled c v p o past { s with logged } :=
  ⟨h.noted, h.quiet, h.lines⟩

theorem Scheduled.start (h : s.printed = #[]) : Scheduled c v p o [] s where
  noted before u rest hpast := by simp at hpast
  quiet := by simp
  lines := by simp [h, replies]

theorem succ_div_of_due (h : o.LineDue (k + 1)) :
    (k + 1) / o.printEvery = k / o.printEvery + 1 := by
  rw [Nat.succ_div, if_pos h.2]

theorem succ_div_of_not_due (h : ¬ o.LineDue (k + 1)) :
    (k + 1) / o.printEvery = k / o.printEvery := by
  rcases Nat.eq_zero_or_pos o.printEvery with hzero | hpos
  · simp [hzero]
  · rw [Nat.succ_div, if_neg fun hdvd => h ⟨hpos, hdvd⟩, Nat.add_zero]

theorem getElem?_of_prefix {α : Type} {l m : List α} {i : Nat} {x : α} (h : l <+: m)
    (hi : l[i]? = some x) : m[i]? = some x := by
  obtain ⟨added, rfl⟩ := h
  obtain ⟨hlt, -⟩ := List.getElem?_eq_some_iff.mp hi
  rw [List.getElem?_append_left hlt, hi]

theorem Notes.printed_prefix {errors extras : List Float} (h : s.Notes c v p o k errors extras) :
    s.printed.toList <+: (s.next c v p).printed.toList := by
  rw [h.printed, h.shown]
  split
  · exact ⟨_, Array.toList_push.symm⟩
  · exact List.prefix_rfl

theorem Scheduled.quietly (h : Scheduled c v p o past s) (ht : s.reply v p ≠ .newX)
    (hquiet : s.Quiet c v p) : Scheduled c v p o (past ++ [s]) (s.next c v p) where
  noted before u rest hpast hu := by
    rw [hquiet.printed, hquiet.history]
    obtain ⟨-, rfl, -⟩ | ⟨rest', hbefore⟩ := split_snoc hpast
    · exact absurd hu ht
    · exact h.noted before u rest' hbefore hu
  quiet u hu hne := by
    rcases List.mem_append.mp hu with hpast | hlast
    · exact h.quiet u hpast hne
    · rwa [List.mem_singleton.mp hlast]
  lines := by
    rw [hquiet.printed, h.lines, count_replies_snoc, if_neg ht, Nat.add_zero]

theorem Scheduled.noting {errors extras : List Float} (h : Scheduled c v p o past s)
    (htally : Tally v p o past s) (ht : s.reply v p = .newX)
    (hnotes : s.Notes c v p o ((replies v p past).count .newX + 1) errors extras) :
    Scheduled c v p o (past ++ [s]) (s.next c v p) where
  noted before u rest hpast hu := by
    obtain ⟨rfl, rfl, -⟩ | ⟨rest', hbefore⟩ := split_snoc hpast
    · have hrows : s.history.toList.length = (replies v p past).count .newX := by
        rw [History.length_toList, htally.rows, htally.outer]
      refine ⟨errors, extras, hnotes, ?_, fun hdue => ?_⟩
      · rw [hnotes.recorded, ← hrows, List.getElem?_concat_length]
      · have hline : (replies v p past).count .newX / o.printEvery =
            s.printed.toList.length := by
          rw [Array.length_toList, h.lines]
        rw [hnotes.printed, hnotes.shown, if_pos hdue, succ_div_of_due hdue, Nat.add_sub_cancel,
          Array.toList_push, hline, List.getElem?_concat_length]
    · obtain ⟨errors', extras', hnoted, hrow, hline⟩ := h.noted before u rest' hbefore hu
      have hrows : s.history.toList <+: (s.next c v p).history.toList :=
        ⟨_, hnotes.recorded.symm⟩
      exact ⟨errors', extras', hnoted, getElem?_of_prefix hrows hrow,
        fun hdue => getElem?_of_prefix hnotes.printed_prefix (hline hdue)⟩
  quiet u hu hne := by
    rcases List.mem_append.mp hu with hpast | hlast
    · exact h.quiet u hpast hne
    · exact absurd (List.mem_singleton.mp hlast ▸ ht) hne
  lines := by
    rw [hnotes.printed, hnotes.shown, count_replies_snoc, if_pos ht]
    by_cases hdue : o.LineDue ((replies v p past).count .newX + 1)
    · rw [if_pos hdue, Array.size_push, h.lines, succ_div_of_due hdue]
    · rw [if_neg hdue, h.lines, succ_div_of_not_due hdue]

theorem Scheduled.advance (h : Scheduled c v p o past s) (htally : Tally v p o past s)
    (hroom : s.outer < o.maxIts) (hcadence : p.settings.cadence = .ok (.whole o.printEvery))
    (ha : s.advance c v p = (w, r)) (hr : ∀ e, r ≠ .failed e) :
    Scheduled c v p o (past ++ [s]) w := by
  have hnext := next_eq ha
  by_cases ht : s.reply v p = .newX
  · obtain ⟨errors, extras, hnotes⟩ := notes_of_advance htally hroom hcadence ht ha hr
    exact hnext ▸ h.noting htally ht hnotes
  · exact hnext ▸ h.quietly ht (quiet_of_advance ht ha hr)

section Runs

variable (hfresh : s.Fresh o) (hprinted : s.printed = #[]) (hpos : 1 ≤ o.maxIts)
  (hlimit : p.settings.iterationLimit = o.maxIts)
  (hcadence : p.settings.cadence = .ok (.whole o.printEvery))
include hfresh hprinted hpos hlimit hcadence

theorem Course.scheduled (hc : Course c v p s past u) : Scheduled c v p o past u := by
  induction hc with
  | start => exact .start hprinted
  | step hc ha ih =>
    obtain ⟨htally, hroom⟩ := hc.tally hfresh hpos hlimit
    exact ih.advance htally hroom hcadence ha (by simp)

theorem Finish.scheduled {status : Status} {ts : List (RunState σ n)}
    (hf : Finish c v p limit k s ts w (.ok status)) : Scheduled c v p o ts w := by
  cases hf with
  | exhausted hc hk =>
    exact (hc.scheduled hfresh hprinted hpos hlimit hcadence).logged _
  | ended hc hk ha =>
    obtain ⟨htally, hroom⟩ := hc.tally hfresh hpos hlimit
    exact (hc.scheduled hfresh hprinted hpos hlimit hcadence).advance htally hroom hcadence ha
      (by simp)

end Runs

theorem exists_iterate {ts : List (RunState σ n)} (hk : k < (replies v p ts).count .newX) :
    ∃ past s rest, ts = past ++ s :: rest ∧ s.reply v p = .newX ∧
      (replies v p past).count .newX = k := by
  induction ts generalizing k with
  | nil => simp [replies] at hk
  | cons t ts ih =>
    have hcons (us : List (RunState σ n)) : (replies v p (t :: us)).count .newX =
        (replies v p us).count .newX + if t.reply v p = .newX then 1 else 0 := by
      simp [replies, List.count_cons]
    rw [hcons] at hk
    by_cases ht : t.reply v p = .newX
    · rw [if_pos ht] at hk
      cases k with
      | zero => exact ⟨[], t, ts, rfl, ht, rfl⟩
      | succ k =>
        obtain ⟨past, s, rest, rfl, hs, hcount⟩ := ih (Nat.lt_of_succ_lt_succ hk)
        exact ⟨t :: past, s, rest, rfl, hs, by rw [hcons, if_pos ht, hcount]⟩
    · rw [if_neg ht] at hk
      obtain ⟨past, s, rest, rfl, hs, hcount⟩ := ih hk
      exact ⟨t :: past, s, rest, rfl, hs, by rw [hcons, if_neg ht, hcount, Nat.add_zero]⟩

theorem iterate_of_line {j count : Nat} (hj : j < count / o.printEvery) :
    ∃ k, (j + 1) * o.printEvery = k + 1 ∧ k < count ∧ o.LineDue (k + 1) ∧
      (k + 1) / o.printEvery - 1 = j := by
  have hpos : 0 < o.printEvery := by
    rcases Nat.eq_zero_or_pos o.printEvery with hzero | hpos
    · simp [hzero] at hj
    · exact hpos
  have hle : (j + 1) * o.printEvery ≤ count := (Nat.le_div_iff_mul_le hpos).mp hj
  have hnumber : 0 < (j + 1) * o.printEvery := Nat.mul_pos (Nat.succ_pos j) hpos
  have hk : (j + 1) * o.printEvery = (j + 1) * o.printEvery - 1 + 1 := by omega
  refine ⟨(j + 1) * o.printEvery - 1, hk, by omega, ⟨hpos, ?_⟩, ?_⟩
  · rw [← hk]
    exact Nat.dvd_mul_left _ _
  · rw [← hk, Nat.mul_div_cancel _ hpos, Nat.add_sub_cancel]

end RunState

/-- A run that gives a result has noted each reported iterate as its options say, and nothing else.
Its lines are those of the iterates whose number the cadence divides, in order, each with the values
of the row of its iterate. -/
theorem diagnostics_on_schedule {σ : Type} {c : Client σ} {v : Solver σ}
    {fcn lower upper : Value} {opts : Option Value} {watched : Bool} {cancel : Cancellation}
    {memory : σ} {r : Result}
    (hr : (minimize c v fcn lower upper opts watched cancel memory).answer = .ok r) :
    ∃ a q, Starts v fcn lower upper opts watched cancel memory a q ∧
      (∀ (past : List (RunState σ q.n)) (s : RunState σ q.n) rest,
        q.turns c v = past ++ s :: rest →
        (s.reply v q.problem = .newX → ∃ errors extras,
          s.Notes c v q.problem a.options
            ((RunState.replies v q.problem past).count .newX + 1) errors extras ∧
          r.history[(RunState.replies v q.problem past).count .newX]? =
            some ((s.told v q.problem).row extras)) ∧
        (s.reply v q.problem ≠ .newX → s.Quiet c v q.problem)) ∧
      (minimize c v fcn lower upper opts watched cancel memory).printed.length =
        r.nit / a.options.printEvery ∧
      ∀ j, j < r.nit / a.options.printEvery →
        ∃ (past : List (RunState σ q.n)) (s : RunState σ q.n) (rest : List (RunState σ q.n))
          (f gnorm : Float) (errors extras : List Float), q.turns c v = past ++ s :: rest ∧
          s.reply v q.problem = .newX ∧
          s.Notes c v q.problem a.options ((j + 1) * a.options.printEvery) errors extras ∧
          (minimize c v fcn lower upper opts watched cancel memory).printed[j]? =
            some (progressLine ((j + 1) * a.options.printEvery : Nat) f gnorm errors) ∧
          r.history[(j + 1) * a.options.printEvery - 1]? = some (f :: gnorm :: extras) := by
  obtain ⟨a, q, h⟩ := Starts.of_answer hr
  obtain ⟨hfresh, hsettings, -, -⟩ := h.fresh
  obtain ⟨hpos, -⟩ := h.limits_pos
  obtain ⟨left, w₀, record, -, -, hq⟩ := h.set_up
  obtain ⟨w, status, text, hfinish, -, rfl, houtcome⟩ := h.result hr
  obtain ⟨htally, -, -⟩ := hfinish.tally hfresh hpos h.iterationLimit
  have hscheduled := hfinish.scheduled hfresh (by rw [hq]; rfl) hpos h.iterationLimit
    (by rw [hsettings]; rfl)
  have hnit : (w.summary status text).nit = (RunState.replies v q.problem (q.turns c v)).count .newX :=
    htally.outer
  refine ⟨a, q, h, ?_, ?_, ?_⟩
  · intro past s rest hturns
    constructor
    · intro hs
      obtain ⟨errors, extras, hnotes, hrow, -⟩ := hscheduled.noted past s rest hturns hs
      exact ⟨errors, extras, hnotes, hrow⟩
    · exact hscheduled.quiet s (by simp [hturns])
  · rw [houtcome, hnit]
    exact hscheduled.lines
  · intro j hj
    rw [hnit] at hj
    obtain ⟨k, hk, hbelow, hdue, hplace⟩ := RunState.iterate_of_line hj
    obtain ⟨past, s, rest, hturns, hs, rfl⟩ := RunState.exists_iterate hbelow
    obtain ⟨errors, extras, hnotes, hrow, hline⟩ := hscheduled.noted past s rest hturns hs
    have hprinted := hline hdue
    rw [hplace] at hprinted
    rw [houtcome, hk]
    exact ⟨past, s, rest, _, _, errors, extras, hturns, hs, hnotes, hprinted, hrow⟩

def iteratingScript : Script Reply :=
  .ofMoves [({ set := some [0.5] }, .requestFG), ({}, .newX), ({}, .newX), ({}, .newX)]

def meddlingCast : Cast := ⟨#[.squares, .nudging 0 0.25, .total, .cancelling [] 3]⟩

def everyOtherOptions : Value :=
  .mapping [(.text "printEvery", .int 2), (.text "errFcn", .callable ⟨1, "move", false⟩),
    (.text "outputFcn", .list [.callable ⟨2, "sum", false⟩, .callable ⟨3, "stop", false⟩])]

/-- The line of the second iterate shows what its row holds, though the point has moved since. -/
theorem diagnostics_on_schedule_cancelled :
    ∃ r a q, Rehearses iteratingScript everyOtherOptions a q ∧
      (rehearse meddlingCast iteratingScript everyOtherOptions).answer = .ok r ∧
      r.status = .infeasible ∧
      r.history = [[0.25, 1.0, 0.5, 1.0], [0.25, 1.0, 0.75, 2.0], [0.25, 1.0, 0.75, 3.0]] ∧
      (rehearse meddlingCast iteratingScript everyOtherOptions).printed.length =
        r.nit / a.options.printEvery ∧
      ∃ errors, (rehearse meddlingCast iteratingScript everyOtherOptions).printed =
        [progressLine 2 0.25 1.0 errors] := by
  obtain ⟨r, hr, hread⟩ : ∃ r : Result,
      (rehearse meddlingCast iteratingScript everyOtherOptions).answer = .ok r ∧
      (r.status, r.nit, r.history) = (.infeasible, 3,
        [[0.25, 1.0, 0.5, 1.0], [0.25, 1.0, 0.75, 2.0], [0.25, 1.0, 0.75, 3.0]]) :=
    exists_of_map_toOption (by decide +kernel)
  simp only [Prod.mk.injEq] at hread
  obtain ⟨hstatus, hnit, hrows⟩ := hread
  obtain ⟨a, q, h, hnotes, hlines, hline⟩ := diagnostics_on_schedule hr
  have hevery : a.options.printEvery = 2 := by
    obtain ⟨a', hchecked, hevery⟩ : ∃ a' : Checked, checkArguments (.callable ⟨0, "f", false⟩)
        (.list [.float (-4.0)]) (.list [.float 4.0]) (some everyOtherOptions) = .ok a' ∧
        a'.options.printEvery = 2 := exists_of_map_toOption (by decide +kernel)
    obtain rfl : a = a' := Except.ok.inj (h.checked.symm.trans hchecked)
    exact hevery
  rw [hnit, hevery] at hline
  obtain ⟨past, s, rest, f, gnorm, errors, extras, -, -, -, hprinted, hrow⟩ := hline 0 (by decide)
  rw [hrows] at hrow
  obtain ⟨rfl, rfl, -⟩ : 0.25 = f ∧ 1.0 = gnorm ∧ [0.75, 2.0] = extras := by simpa using hrow
  refine ⟨r, a, q, h, hr, hstatus, hrows, hlines, errors, ?_⟩
  rw [hnit, hevery] at hlines
  obtain ⟨line, hone⟩ := List.length_eq_one_iff.mp hlines
  rw [hone] at hprinted
  exact hone.trans (congrArg (fun line => [line]) (Option.some.inj hprinted))

end BoxMin
