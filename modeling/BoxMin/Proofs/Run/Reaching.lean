import BoxMin.Proofs.Run.Setup

set_option autoImplicit false

namespace BoxMin

variable {σ : Type} {n : Nat}

/-- Calls of client and solver lead from one cancellation and memory to another. The solver is not
shown the cancellation. -/
inductive Reaches (c : Client σ) (v : Solver σ) (k : Cancellation) (m : σ) :
    Cancellation → σ → Prop where
  | refl : Reaches c v k m k m
  | call {n : Nat} (f : Callable) {s : Shared σ n} (h : Reaches c v k m s.cancel s.memory) :
      Reaches c v k m (c.call f s).1.cancel (c.call f s).1.memory
  | step {n : Nat} (q : Query) (b : Buffers n) {k' : Cancellation} {m' : σ}
      (h : Reaches c v k m k' m') : Reaches c v k m k' (v.step q b m').2.1

variable {c : Client σ} {v : Solver σ} {p : Problem}

theorem Reaches.trans {k k' k'' : Cancellation} {m m' m'' : σ} (h : Reaches c v k m k' m')
    (h' : Reaches c v k' m' k'' m'') : Reaches c v k m k'' m'' := by
  induction h' with
  | refl => exact h
  | call f _ ih => exact .call f ih
  | step q b _ ih => exact .step q b ih

namespace Shared

def Leads (c : Client σ) (v : Solver σ) (s t : Shared σ n) : Prop :=
  Reaches c v s.cancel s.memory t.cancel t.memory

theorem leads_callValue (f : Value) (s : Shared σ n) : s.Leads c v (c.callValue f s).1 := by
  cases f with
  | callable f => exact .call f .refl
  | _ => exact .refl

theorem leads_evaluator (e : Evaluator) (s : Shared σ n) : s.Leads c v (e.call c s).1 := by
  unfold Evaluator.call
  cases e with
  | joint f => exact leads_callValue f s
  | pair f g =>
    have hf : s.Leads c v (c.callValue f s).1 := leads_callValue f s
    dsimp only
    rcases hcall : c.callValue f s with ⟨t, e | u⟩
    · rwa [hcall] at hf
    · rw [hcall] at hf
      have hg : s.Leads c v (c.callValue g t).1 := hf.trans (leads_callValue g t)
      dsimp only
      rcases hcall' : c.callValue g t with ⟨t', e | w⟩ <;> rwa [hcall'] at hg

theorem leads_diagnose (i : Nat) (fs : List Value) (s : Shared σ n) :
    s.Leads c v (c.diagnose i fs s).1 := by
  induction fs generalizing s with
  | nil => exact .refl
  | cons f fs ih =>
    have hf : s.Leads c v (c.callValue f s).1 := leads_callValue f s
    unfold Client.diagnose
    rcases hcall : c.callValue f s with ⟨t, e | value⟩
    · rwa [hcall] at hf
    · rw [hcall] at hf
      dsimp only
      cases value.toFloat with
      | error e => exact hf
      | ok y =>
        have hrest : s.Leads c v (c.diagnose i fs t).1 := hf.trans (ih t)
        rcases hd : c.diagnose i fs t with ⟨t', e | ys⟩ <;> rwa [hd] at hrest

end Shared

namespace RunState

structure Leads (c : Client σ) (v : Solver σ) (s t : RunState σ n) : Prop where
  shared : s.shared.Leads c v t.shared
  rows : s.history.toList <+: t.history.toList

theorem Leads.refl (s : RunState σ n) : Leads c v s s := ⟨.refl, List.prefix_rfl⟩

theorem Leads.trans {s t u : RunState σ n} (hst : Leads c v s t) (htu : Leads c v t u) :
    Leads c v s u :=
  ⟨Reaches.trans hst.shared htu.shared, hst.rows.trans htu.rows⟩

theorem leads_told (s : RunState σ n) : Leads c v s (s.told v p) := by
  refine ⟨?_, by simp only [told_history, List.prefix_rfl]⟩
  have hstep : Reaches c v s.shared.cancel s.shared.memory s.shared.cancel
      (v.step (s.query p) s.buffers s.shared.memory).2.1 := .step _ _ .refl
  unfold Shared.Leads told callSolver
  rcases hcall : v.step (s.query p) s.buffers s.shared.memory with ⟨b, memory, e | reply⟩ <;>
    rwa [hcall] at hstep

theorem leads_evaluate (t : RunState σ n) : Leads c v t (t.evaluate c p).1 := by
  obtain ⟨hshared, hhistory⟩ := evaluate_frame (c := c) (p := p) t
  refine ⟨?_, hhistory ▸ List.prefix_rfl⟩
  rw [hshared]
  exact Shared.leads_evaluator p.evaluator t.shared

theorem leads_display (t : RunState σ n) : Leads c v t (t.display c p).1 := by
  have hcalls : t.shared.Leads c v
      (c.diagnose (t.history.size + 1) t.history.displays t.shared).1 :=
    Shared.leads_diagnose _ _ _
  unfold display History.displayValues
  split
  · exact .refl t
  · exact .refl t
  · rcases hd : c.diagnose (t.history.size + 1) t.history.displays t.shared with
      ⟨shared, e | errors⟩ <;> exact ⟨by rwa [hd] at hcalls, List.prefix_rfl⟩

theorem leads_record (t : RunState σ n) : Leads c v t (t.record c).1 := by
  have hcalls : t.shared.Leads c v
      (c.diagnose (t.history.size + 1) t.history.outputs t.shared).1 :=
    Shared.leads_diagnose _ _ _
  rcases hd : c.diagnose (t.history.size + 1) t.history.outputs t.shared with
    ⟨shared, e | extras⟩
  · rw [hd] at hcalls
    rw [record_of_error hd]
    exact ⟨hcalls, List.prefix_rfl⟩
  · rw [hd] at hcalls
    rw [record_of_ok hd]
    cases hpush : t.history.push (t.f :: infNorm t.g.toList :: extras) with
    | error e => exact ⟨hcalls, List.prefix_rfl⟩
    | ok history => exact ⟨hcalls, History.toList_push hpush ▸ List.prefix_append _ _⟩

theorem leads_note (t : RunState σ n) : Leads c v t (t.note c p).1 := by
  have hdisplay := leads_display (c := c) (v := v) (p := p) { t with outer := t.outer + 1 }
  have hshown : Leads c v t (({ t with outer := t.outer + 1 } : RunState σ n).display c p).1 :=
    ⟨hdisplay.shared, hdisplay.rows⟩
  unfold note
  rcases hd : ({ t with outer := t.outer + 1 } : RunState σ n).display c p with ⟨d, e | _⟩
  · rwa [hd] at hshown
  · rw [hd] at hshown
    exact hshown.trans (leads_record d)

theorem leads_respond (t : RunState σ n) : Leads c v t (t.respond c p).1 := by
  unfold respond
  split
  · exact leads_evaluate t
  · exact leads_note t
  · exact .refl t

theorem leads_advance (s : RunState σ n) : Leads c v s (s.advance c v p).1 := by
  have hanswered {u : RunState σ n} {r : Except Error Unit}
      (hr : (s.told v p).respond c p = (u, r)) : Leads c v s u := by
    have hrespond : Leads c v (s.told v p) ((s.told v p).respond c p).1 := leads_respond _
    rw [hr] at hrespond
    exact (leads_told s).trans hrespond
  rcases ha : s.advance c v p with ⟨w, r⟩
  cases turn_of_advance ha with
  | refused | verdict => exact leads_told s
  | failed _ _ hr => exact hanswered hr
  | stopped _ _ hr _ => exact ⟨(hanswered hr).shared, (hanswered hr).rows⟩
  | last _ _ hr _ _ => exact ⟨(hanswered hr).shared, (hanswered hr).rows⟩
  | going _ _ hr _ _ => exact hanswered hr

theorem leads_loop (limit : Int) (k : Nat) (s : RunState σ n) :
    Leads c v s (loop c v p limit k s).1 := by
  induction k generalizing s with
  | zero => exact ⟨.refl, List.prefix_rfl⟩
  | succ k ih =>
    have hturn : Leads c v s (s.advance c v p).1 := leads_advance s
    unfold loop
    rcases ha : s.advance c v p with ⟨t, _ | status | e⟩
    · rw [ha] at hturn
      exact hturn.trans (ih t)
    · rwa [ha] at hturn
    · rwa [ha] at hturn

end RunState

theorem minimize_reaches (c : Client σ) (v : Solver σ) (fcn lower upper : Value)
    (opts : Option Value) (watched : Bool) (cancel : Cancellation) (memory : σ) :
    ∃ left, (left = memory ∨ ∃ n m, left = (v.allocate n m memory).1) ∧
      Reaches c v cancel left (minimize c v fcn lower upper opts watched cancel memory).cancel
        (minimize c v fcn lower upper opts watched cancel memory).memory := by
  cases hchecked : checkArguments fcn lower upper opts with
  | error e =>
    rw [minimize_of_unchecked hchecked]
    exact ⟨memory, .inl rfl, .refl⟩
  | ok a =>
    rcases hw : v.allocate a.x0.length (a.options.m : Int) memory with ⟨left, e | w⟩
    · rw [minimize_of_unallocated hchecked hw]
      exact ⟨left, .inr ⟨_, _, (congrArg Prod.fst hw).symm⟩, .refl⟩
    · refine ⟨left, .inr ⟨_, _, (congrArg Prod.fst hw).symm⟩, ?_⟩
      cases hrecord : a.options.history with
      | error e =>
        rw [minimize_of_unrecorded hchecked hw hrecord]
        exact .refl
      | ok record =>
        rw [minimize_eq_loop hchecked hw hrecord]
        exact (RunState.leads_loop _ _ (a.opened watched cancel w record left)).shared

end BoxMin
