import BoxMin.Proofs.Diagnostics
import BoxMin.Proofs.Run.Counting

set_option autoImplicit false

namespace BoxMin

def Options.LineDue (o : Options) (k : Nat) : Prop := 0 < o.printEvery ∧ o.printEvery ∣ k

instance (o : Options) (k : Nat) : Decidable (o.LineDue k) :=
  inferInstanceAs (Decidable (0 < o.printEvery ∧ o.printEvery ∣ k))

variable {σ : Type} {n : Nat}

/-- The diagnostics called for the `k`-th iterate, with what they answer: those shown, if a line is
due, lead from `s` to `shown`, those recorded from there to `t`. -/
structure Options.Observed (o : Options) (c : Client σ) (k : Nat) (s : Shared σ n)
    (errors : List Float) (shown : Shared σ n) (extras : List Float) (t : Shared σ n) : Prop where
  due : o.LineDue k → c.Yields o.errFcn s errors shown
  skipped : ¬ o.LineDue k → shown = s
  recorded : c.Yields o.outputFcn shown extras t

/-- Of the diagnostics called for the `k`-th iterate, `f` is the first that fails. -/
inductive Options.Fails (o : Options) (c : Client σ) (k : Nat) (s : Shared σ n) :
    Callable → Error → Shared σ n → Prop where
  | shown {f : Callable} {e : Error} {t : Shared σ n} (hdue : o.LineDue k)
      (hf : c.Fails o.errFcn s f e t) : Fails o c k s f e t
  | recorded {errors : List Float} {shown : Shared σ n} {f : Callable} {e : Error} {t : Shared σ n}
      (hdue : o.LineDue k → c.Yields o.errFcn s errors shown)
      (hskipped : ¬ o.LineDue k → shown = s) (hf : c.Fails o.outputFcn shown f e t) :
      Fails o c k s f e t

theorem Options.observed_or_fails (o : Options) (c : Client σ) (k : Nat) (s : Shared σ n) :
    (∃ errors shown extras t, o.Observed c k s errors shown extras t) ∨
      ∃ f e t, o.Fails c k s f e t := by
  by_cases hdue : o.LineDue k
  · obtain ⟨errors, shown, herrors⟩ | ⟨f, e, t, hf⟩ := c.yields_or_fails o.errFcn s
    · obtain ⟨extras, t, hextras⟩ | ⟨f, e, t, hf⟩ := c.yields_or_fails o.outputFcn shown
      · exact .inl ⟨errors, shown, extras, t, fun _ => herrors, absurd hdue, hextras⟩
      · exact .inr ⟨f, e, t, .recorded (fun _ => herrors) (absurd hdue) hf⟩
    · exact .inr ⟨f, e, t, .shown hdue hf⟩
  · have hnone : o.LineDue k → c.Yields o.errFcn s [] s := fun h => absurd h hdue
    obtain ⟨extras, t, hextras⟩ | ⟨f, e, t, hf⟩ := c.yields_or_fails o.outputFcn s
    · exact .inl ⟨[], s, extras, t, hnone, fun _ => rfl, hextras⟩
    · exact .inr ⟨f, e, t, .recorded hnone (fun _ => rfl) hf⟩

structure Options.Kept (o : Options) (p : Problem) (h : History) : Prop where
  cadence : p.settings.cadence = .ok (.whole o.printEvery)
  displays : h.displays = o.errFcn.map .callable
  outputs : h.outputs = o.outputFcn.map .callable

namespace RunState

variable {c : Client σ} {v : Solver σ} {p : Problem} {o : Options} {s t u : RunState σ n}
  {errors extras : List Float} {sh shown : Shared σ n} {f : Callable} {e : Error}

def line (t : RunState σ n) (errors : List Float) : String :=
  progressLine t.outer t.f (infNorm t.g.toList) errors

def row (t : RunState σ n) (extras : List Float) : List Float :=
  t.f :: infNorm t.g.toList :: extras

section Told

variable {past : List (RunState σ n)}

theorem Tally.kept (h : Tally v p o past s)
    (hcadence : p.settings.cadence = .ok (.whole o.printEvery)) :
    o.Kept p (s.told v p).history := by
  rw [told_history]
  exact ⟨hcadence, h.displays, h.outputs⟩

theorem Tally.told_counts (h : Tally v p o past s) :
    (s.told v p).outer = (replies v p past).count .newX ∧
      (s.told v p).history.size = (replies v p past).count .newX := by
  rw [told_outer, told_history, h.rows, h.outer]
  exact ⟨rfl, rfl⟩

theorem Tally.history_room (h : Tally v p o past s) (hroom : s.outer < o.maxIts) :
    (s.told v p).history.size < (s.told v p).history.capacity := by
  rw [told_history, h.rows, h.capacity]
  exact hroom

end Told

theorem lineDue_eq (h : p.settings.cadence = .ok (.whole o.printEvery)) (t : RunState σ n) :
    t.lineDue p = .ok (decide (o.LineDue t.outer)) := by
  have hdivides : ((t.outer : Int) % o.printEvery == 0) = decide (o.printEvery ∣ t.outer) := by
    rw [Bool.eq_iff_iff, beq_iff_eq, decide_eq_true_eq, ← Int.natCast_dvd_natCast,
      Int.dvd_iff_emod_eq_zero]
  simp only [lineDue, h, Number.due_whole, orFault_ok, hdivides, Int.natCast_pos]
  exact congrArg Except.ok (Bool.decide_and _ _).symm

section Steps

variable (hkept : o.Kept p t.history)
include hkept

theorem display_of_not_due (hdue : ¬ o.LineDue t.outer) : t.display c p = (t, .ok ()) := by
  unfold display
  rw [lineDue_eq hkept.cadence, decide_eq_false hdue]

theorem display_of_yields (hdue : o.LineDue t.outer) (h : c.Yields o.errFcn t.shared errors sh) :
    t.display c p =
      ({ t with shared := sh, printed := t.printed.push (t.line errors) }, .ok ()) := by
  unfold display History.displayValues
  rw [lineDue_eq hkept.cadence, decide_eq_true hdue, hkept.displays, h.diagnose]
  rfl

theorem display_of_fails (hdue : o.LineDue t.outer) (h : c.Fails o.errFcn t.shared f e sh) :
    t.display c p =
      ({ t with shared := sh }, .error (Client.blame (.callable f) (t.history.size + 1) e)) := by
  unfold display History.displayValues
  rw [lineDue_eq hkept.cadence, decide_eq_true hdue, hkept.displays, h.diagnose]

theorem record_of_yields (hroom : t.history.size < t.history.capacity)
    (h : c.Yields o.outputFcn t.shared extras sh) :
    t.record c = ({ t with
      shared := sh
      history := { t.history with rows := t.history.rows.push (t.row extras) } }, .ok ()) := by
  have hcalls := h.diagnose (t.history.size + 1)
  rw [← hkept.outputs] at hcalls
  have hwidth : (t.row extras).length = t.history.width := by
    have hlength := c.diagnose_length _ _ _ _ _ hcalls
    simp only [row, List.length_cons, History.width]
    omega
  have hpush := History.push_eq_ok_iff.mpr ⟨hroom, hwidth, rfl⟩
  unfold row at hpush
  rw [record_of_ok hcalls, hpush]
  rfl

theorem record_of_fails (h : c.Fails o.outputFcn t.shared f e sh) :
    t.record c =
      ({ t with shared := sh }, .error (Client.blame (.callable f) (t.history.size + 1) e)) := by
  have hcalls := h.diagnose (t.history.size + 1)
  rw [← hkept.outputs] at hcalls
  exact record_of_error hcalls

theorem display_of_observed (h : o.Observed c t.outer t.shared errors shown extras sh) :
    t.display c p = ({ t with
      shared := shown
      printed := if o.LineDue t.outer then t.printed.push (t.line errors) else t.printed },
        .ok ()) := by
  by_cases hdue : o.LineDue t.outer
  · rw [display_of_yields hkept hdue (h.due hdue), if_pos hdue]
  · rw [display_of_not_due hkept hdue, if_neg hdue, h.skipped hdue]

end Steps

/-- The state in which an iterate has been counted and not yet shown. -/
def counted (t : RunState σ n) : RunState σ n := { t with outer := t.outer + 1 }

theorem note_of_observed (hkept : o.Kept p t.history) (hroom : t.history.size < t.history.capacity)
    (h : o.Observed c (t.outer + 1) t.shared errors shown extras sh) :
    t.note c p = ({ t.counted with
      shared := sh
      printed := if o.LineDue (t.outer + 1) then t.printed.push (t.counted.line errors)
        else t.printed
      history := { t.history with rows := t.history.rows.push (t.row extras) } }, .ok ()) := by
  have hdisplay := display_of_observed (t := t.counted) hkept h
  unfold counted at hdisplay
  unfold note
  rw [hdisplay]
  exact record_of_yields (t := { t.counted with
    shared := shown
    printed := if o.LineDue (t.outer + 1) then t.printed.push (t.counted.line errors)
      else t.printed }) hkept hroom h.recorded

theorem note_of_fails (hkept : o.Kept p t.history) (h : o.Fails c (t.outer + 1) t.shared f e sh) :
    ∃ printed, t.note c p = ({ t.counted with shared := sh, printed },
      .error (Client.blame (.callable f) (t.history.size + 1) e)) := by
  cases h with
  | shown hdue hf =>
    have hdisplay := display_of_fails (t := t.counted) hkept hdue hf
    unfold counted at hdisplay
    unfold note
    rw [hdisplay]
    exact ⟨_, rfl⟩
  | @recorded errors shown _ _ _ hdue hskipped hf =>
    -- the shown diagnostics all answered, so the line stands when a recorded one fails
    obtain ⟨printed, hdisplay⟩ : ∃ printed, t.counted.display c p =
        ({ t.counted with shared := shown, printed }, .ok ()) := by
      by_cases hline : o.LineDue (t.outer + 1)
      · exact ⟨_, display_of_yields (t := t.counted) hkept hline (hdue hline)⟩
      · obtain rfl := hskipped hline
        exact ⟨_, display_of_not_due (t := t.counted) hkept hline⟩
    unfold counted at hdisplay
    unfold note
    rw [hdisplay]
    exact ⟨printed, record_of_fails hkept hf⟩

end RunState

end BoxMin
