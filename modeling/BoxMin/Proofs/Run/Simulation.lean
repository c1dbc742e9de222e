import BoxMin.Proofs.Run.Setup

/-!
Two runs side by side. Where client and solver of one do what those of the other do, as long as the
memories of both are related, the runs do the same. Their work areas and the texts of their replies
may differ, for no answer looks at them, and so may what their records and printed lines hold.
-/

set_option autoImplicit false

namespace BoxMin

variable {σ₁ σ₂ : Type} {n : Nat} {ρ : σ₁ → σ₂ → Prop} {c₁ : Client σ₁} {c₂ : Client σ₂}
  {v₁ : Solver σ₁} {v₂ : Solver σ₂}

namespace Shared

def holding (m : σ₂) (a : Shared σ₁ n) : Shared σ₂ n := ⟨a.x, a.cancel, m⟩

def Matches {α : Type} (ρ : σ₁ → σ₂ → Prop) (r₁ : Shared σ₁ n × α) (r₂ : Shared σ₂ n × α) : Prop :=
  ∃ m, r₂ = (r₁.1.holding m, r₁.2) ∧ ρ r₁.1.memory m

end Shared

/-- Where memories are related, both clients do the same when `f` is called. -/
def Client.Simulates (ρ : σ₁ → σ₂ → Prop) (c₁ : Client σ₁) (c₂ : Client σ₂) (f : Callable) : Prop :=
  ∀ {n : Nat} (a : Shared σ₁ n) (m : σ₂), ρ a.memory m →
    Shared.Matches ρ (c₁.call f a) (c₂.call f (a.holding m))

/-- Where memories are related, both solvers give the same work areas, take the same steps and say
the same. -/
structure Solver.Simulates (ρ : σ₁ → σ₂ → Prop) (v₁ : Solver σ₁) (v₂ : Solver σ₂) : Prop where
  allocate : ∀ (n : Nat) (k : Operand) (s : σ₁) (m : σ₂), ρ s m →
    ∃ m', v₂.allocate n k m = (m', (v₁.allocate n k s).2) ∧ ρ (v₁.allocate n k s).1 m'
  step : ∀ {n : Nat} (q : Query) (b : Buffers n) (s : σ₁) (m : σ₂), ρ s m →
    ∃ m', v₂.step q b m = ((v₁.step q b s).1, m', (v₁.step q b s).2.2) ∧ ρ (v₁.step q b s).2.1 m'
  message : ∀ (w : Workspace) (s : σ₁) (m : σ₂), ρ s m → v₂.message w m = v₁.message w s

theorem Client.simulates_self (c : Client σ₁) (f : Callable) : c.Simulates Eq c f := by
  rintro n a m rfl
  exact ⟨_, rfl, rfl⟩

theorem Solver.simulates_self (v : Solver σ₁) : v.Simulates Eq v where
  allocate n k s m hm := by
    subst hm
    exact ⟨_, rfl, rfl⟩
  step q b s m hm := by
    subst hm
    exact ⟨_, rfl, rfl⟩
  message w s m hm := by
    subst hm
    rfl

def Evaluator.parts : Evaluator → List Value
  | .joint f => [f]
  | .pair f g => [f, g]

theorem callValue_matches {f : Value} (hf : ∀ g, f = .callable g → c₁.Simulates ρ c₂ g)
    (a : Shared σ₁ n) {m : σ₂} (hm : ρ a.memory m) :
    Shared.Matches ρ (c₁.callValue f a) (c₂.callValue f (a.holding m)) := by
  cases f with
  | callable g => exact hf g rfl a m hm
  | _ => exact ⟨m, rfl, hm⟩

theorem evaluator_matches {e : Evaluator} (he : ∀ g, .callable g ∈ e.parts → c₁.Simulates ρ c₂ g)
    (a : Shared σ₁ n) {m : σ₂} (hm : ρ a.memory m) :
    Shared.Matches ρ (e.call c₁ a) (e.call c₂ (a.holding m)) := by
  cases e with
  | joint f => exact callValue_matches (fun g hg => he g (by simp [Evaluator.parts, hg])) a hm
  | pair f g =>
    obtain ⟨m₁, hcall, hm₁⟩ :=
      callValue_matches (f := f) (fun g hg => he g (by simp [Evaluator.parts, hg])) a hm
    simp only [Evaluator.call, hcall]
    rcases hf : c₁.callValue f a with ⟨b, e | u⟩
    · rw [hf] at hm₁
      exact ⟨m₁, rfl, hm₁⟩
    · rw [hf] at hm₁
      obtain ⟨m₂, hcall₂, hm₂⟩ :=
        callValue_matches (f := g) (fun g hg => he g (by simp [Evaluator.parts, hg])) b hm₁
      simp only [hcall₂]
      rcases hg : c₁.callValue g b with ⟨b', e | w⟩ <;> rw [hg] at hm₂ <;> exact ⟨m₂, rfl, hm₂⟩

theorem diagnose_matches (fs : List Value) (i : Nat)
    (hfs : ∀ g, .callable g ∈ fs → c₁.Simulates ρ c₂ g) (a : Shared σ₁ n) {m : σ₂}
    (hm : ρ a.memory m) :
    Shared.Matches ρ (c₁.diagnose i fs a) (c₂.diagnose i fs (a.holding m)) := by
  induction fs generalizing a m with
  | nil => exact ⟨m, rfl, hm⟩
  | cons f fs ih =>
    obtain ⟨m₁, hcall, hm₁⟩ :=
      callValue_matches (f := f) (fun g hg => hfs g (by simp [hg])) a hm
    simp only [Client.diagnose, hcall]
    rcases hf : c₁.callValue f a with ⟨b, e | value⟩
    · rw [hf] at hm₁
      exact ⟨m₁, rfl, hm₁⟩
    · rw [hf] at hm₁
      dsimp only
      cases value.toFloat with
      | error e => exact ⟨m₁, rfl, hm₁⟩
      | ok y =>
        obtain ⟨m₂, hrest, hm₂⟩ := ih (fun g hg => hfs g (List.mem_cons_of_mem _ hg)) b hm₁
        simp only [hrest]
        rcases hd : c₁.diagnose i fs b with ⟨b', e | ys⟩ <;> rw [hd] at hm₂ <;> exact ⟨m₂, rfl, hm₂⟩

def Problem.withCadence (d : Except Fault Number) (p : Problem) : Problem :=
  { p with settings.cadence := d }

def History.withCapacity (k : Nat) (h : History) : History := { h with capacity := k }

def History.Admits (k : Nat) (h : History) : Prop :=
  k = h.capacity ∨ h.size < h.capacity ∧ h.size < k

theorem History.push_withCapacity {h : History} {k : Nat} (hk : h.Admits k) (row : List Float) :
    (h.withCapacity k).push row = (h.push row).map (withCapacity k) := by
  have hcapacity : (h.withCapacity k).capacity = k := rfl
  have hsize : (h.withCapacity k).size = h.size := rfl
  have hwidth : (h.withCapacity k).width = h.width := rfl
  have hfull : k ≤ h.size ↔ h.capacity ≤ h.size := by unfold Admits at hk; omega
  unfold push
  simp only [hcapacity, hsize, hwidth, hfull]
  split
  · rename_i hfull
    obtain rfl : k = h.capacity := by unfold Admits at hk; omega
    rfl
  · split <;> rfl

abbrev Remarks := Workspace × String

abbrev Books := History × Array String

namespace RunState

def holding (m : σ₂) (a : Remarks) (b : Books) (s : RunState σ₁ n) : RunState σ₂ n where
  shared := s.shared.holding m
  f := s.f
  g := s.g
  workspace := a.1
  task := s.task
  message := a.2
  outer := s.outer
  total := s.total
  history := b.1
  declared := s.declared
  printed := b.2
  logged := s.logged

/-- Two states are alike, but for related memories, remarks and books. -/
def Like (ρ : σ₁ → σ₂ → Prop) (ω : Remarks → Remarks → Prop) (β : Books → Books → Prop)
    (s : RunState σ₁ n) (t : RunState σ₂ n) : Prop :=
  ∃ m a b, t = s.holding m a b ∧ ρ s.shared.memory m ∧ ω (s.workspace, s.message) a ∧
    β (s.history, s.printed) b

def Matches {α : Type} (ρ : σ₁ → σ₂ → Prop) (ω : Remarks → Remarks → Prop)
    (β : Books → Books → Prop) (r₁ : RunState σ₁ n × α) (r₂ : RunState σ₂ n × α) : Prop :=
  ∃ u w r, r₁ = (u, r) ∧ r₂ = (w, r) ∧ Like ρ ω β u w

def Resized (k : Nat → Nat) (b b' : Books) : Prop :=
  b' = (b.1.withCapacity (k b.1.capacity), b.2)

variable {ω : Remarks → Remarks → Prop} {β : Books → Books → Prop} {p : Problem}
  {s : RunState σ₁ n} {t : RunState σ₂ n}

theorem Like.mono {ω' : Remarks → Remarks → Prop} (hω : ∀ a b, ω a b → ω' a b)
    (h : Like ρ ω β s t) : Like ρ ω' β s t := by
  obtain ⟨m, a, b, ht, hm, ha, hb⟩ := h
  exact ⟨m, a, b, ht, hm, hω _ _ ha, hb⟩

theorem callSolver_matches (hv : v₁.Simulates ρ v₂) (h : Like ρ Eq β s t) :
    Matches ρ Eq β (s.callSolver v₁ p) (t.callSolver v₂ p) := by
  obtain ⟨m, a, b, rfl, hm, rfl, hb⟩ := h
  obtain ⟨m', hstep, hm'⟩ := hv.step (s.query p) s.buffers s.shared.memory m hm
  have hsecond : v₂.step ((s.holding m (s.workspace, s.message) b).query p)
      (s.holding m (s.workspace, s.message) b).buffers
      (s.holding m (s.workspace, s.message) b).shared.memory = _ := hstep
  unfold callSolver
  rw [hsecond]
  rcases hr : v₁.step (s.query p) s.buffers s.shared.memory with ⟨buffers, memory, e | reply⟩ <;>
    rw [hr] at hm' <;> exact ⟨_, _, _, rfl, rfl, m', _, b, rfl, hm', rfl, hb⟩

theorem evaluate_matches (he : ∀ g, .callable g ∈ p.evaluator.parts → c₁.Simulates ρ c₂ g)
    (h : Like ρ ω β s t) : Matches ρ ω β (s.evaluate c₁ p) (t.evaluate c₂ p) := by
  obtain ⟨m, a, b, rfl, hm, ha, hb⟩ := h
  obtain ⟨m', hcall, hm'⟩ := evaluator_matches he s.shared hm
  have hsecond : p.evaluator.call c₂ (s.holding m a b).shared = _ := hcall
  unfold evaluate
  rw [hsecond]
  rcases hr : p.evaluator.call c₁ s.shared with ⟨shared, e | value⟩
  · rw [hr] at hm'
    cases e with
    | signal signal =>
      cases signal with
      | infeasible reasons =>
        dsimp only
        unfold declare
        split <;> exact ⟨_, _, _, rfl, rfl, m', a, b, rfl, hm', ha, hb⟩
      | _ => exact ⟨_, _, _, rfl, rfl, m', a, b, rfl, hm', ha, hb⟩
    | _ => exact ⟨_, _, _, rfl, rfl, m', a, b, rfl, hm', ha, hb⟩
  · rw [hr] at hm'
    dsimp only
    unfold take
    repeat' split
    all_goals exact ⟨_, _, _, rfl, rfl, m', a, b, rfl, hm', ha, hb⟩

theorem checkStop_matches (h : Like ρ ω β s t) :
    Matches ρ ω β (s.checkStop p) (t.checkStop p) := by
  obtain ⟨m, a, b, rfl, hm, ha, hb⟩ := h
  have hreason : (s.holding m a b).stopReason p = s.stopReason p := rfl
  unfold checkStop
  rw [hreason]
  split <;> exact ⟨_, _, _, rfl, rfl, m, a, b, rfl, hm, ha, hb⟩

theorem checkLimit_matches (h : Like ρ ω β s t) :
    Matches ρ ω β (s.checkLimit p) (t.checkLimit p) := by
  obtain ⟨m, a, b, rfl, hm, ha, hb⟩ := h
  have houter : (s.holding m a b).outer = s.outer := rfl
  unfold checkLimit
  rw [houter]
  split <;> exact ⟨_, _, _, rfl, rfl, m, a, b, rfl, hm, ha, hb⟩

section Answers

variable {d : Except Fault Number}

theorem answerRequest_matches (he : ∀ g, .callable g ∈ p.evaluator.parts → c₁.Simulates ρ c₂ g)
    (h : Like ρ ω β s t) : Matches ρ ω β (s.answerRequest c₁ p) (t.answerRequest c₂ p) := by
  obtain ⟨u, w, r, hu, hw, hlike⟩ := evaluate_matches he h
  unfold answerRequest
  rw [hu, hw]
  cases r with
  | error e => exact ⟨u, w, _, rfl, rfl, hlike⟩
  | ok ok => exact checkStop_matches hlike

theorem acceptIterate_matches
    (hnote : Matches ρ ω β (s.note c₁ p) (t.note c₂ (p.withCadence d))) :
    Matches ρ ω β (s.acceptIterate c₁ p) (t.acceptIterate c₂ (p.withCadence d)) := by
  obtain ⟨u, w, r, hu, hw, hlike⟩ := hnote
  rw [acceptIterate_eq, acceptIterate_eq, hu, hw]
  cases r with
  | error e => exact ⟨u, w, _, rfl, rfl, hlike⟩
  | ok ok =>
    obtain ⟨u', w', r, hu', hw', hlike'⟩ := checkStop_matches (p := p) hlike
    have hw' : w.checkStop (p.withCadence d) = (w', r) := hw'
    simp only [hu', hw']
    cases r with
    | running => exact checkLimit_matches hlike'
    | ended status => exact ⟨u', w', _, rfl, rfl, hlike'⟩
    | failed e => exact ⟨u', w', _, rfl, rfl, hlike'⟩

/-- Answers to replies come to the same if noting an iterate does. -/
theorem answer_matches (he : ∀ g, .callable g ∈ p.evaluator.parts → c₁.Simulates ρ c₂ g)
    (h : Like ρ ω β s t) (hnote : Matches ρ ω β (s.note c₁ p) (t.note c₂ (p.withCadence d))) :
    Matches ρ ω β (s.answer c₁ p) (t.answer c₂ (p.withCadence d)) := by
  have htask : t.task = s.task := by
    obtain ⟨m, a, b, rfl, -, -, -⟩ := h
    rfl
  unfold answer
  rw [htask]
  split
  · exact answerRequest_matches he h
  · exact acceptIterate_matches hnote
  · exact ⟨s, t, _, rfl, rfl, h⟩

theorem advance_matches (hv : v₁.Simulates ρ v₂)
    (he : ∀ g, .callable g ∈ p.evaluator.parts → c₁.Simulates ρ c₂ g) (h : Like ρ Eq β s t)
    (hnote : ∀ (u : RunState σ₁ n) (w : RunState σ₂ n), Like ρ Eq β u w →
      u.history = s.history → w.history = t.history →
      Matches ρ Eq β (u.note c₁ p) (w.note c₂ (p.withCadence d))) :
    Matches ρ Eq β (s.advance c₁ v₁ p) (t.advance c₂ v₂ (p.withCadence d)) := by
  obtain ⟨u, w, r, hu, hw, hlike⟩ := callSolver_matches (p := p) hv h
  have hw : t.callSolver v₂ (p.withCadence d) = (w, r) := hw
  have hfirst : (s.callSolver v₁ p).1.history = s.history := told_history
  have hsecond : (t.callSolver v₂ (p.withCadence d)).1.history = t.history := told_history
  rw [hu] at hfirst
  rw [hw] at hsecond
  unfold advance
  rw [hu, hw]
  cases r with
  | error e => exact ⟨u, w, _, rfl, rfl, hlike⟩
  | ok ok => exact answer_matches he hlike (hnote u w hlike hfirst hsecond)

end Answers

section Notes

variable {k : Nat → Nat}

theorem display_matches (hc : ∀ f, c₁.Simulates ρ c₂ f) (h : Like ρ ω (Resized k) s t) :
    Matches ρ ω (Resized k) (s.display c₁ p) (t.display c₂ p) := by
  obtain ⟨m, a, b, rfl, hm, ha, hb⟩ := h
  obtain ⟨m', hcalls, hm'⟩ := diagnose_matches s.history.displays (s.history.size + 1)
    (fun g _ => hc g) s.shared hm
  have hdue : (s.holding m a b).lineDue p = s.lineDue p := rfl
  have hshown : (s.holding m a b).history.displayValues c₂ (s.holding m a b).shared =
      c₂.diagnose (s.history.size + 1) s.history.displays (s.shared.holding m) := by
    obtain rfl := hb
    rfl
  unfold display
  rw [hdue, hshown, hcalls, History.displayValues]
  rcases s.lineDue p with e | due
  · exact ⟨_, _, _, rfl, rfl, m, a, b, rfl, hm, ha, hb⟩
  · cases due with
    | false => exact ⟨_, _, _, rfl, rfl, m, a, b, rfl, hm, ha, hb⟩
    | true =>
      rcases hr : c₁.diagnose (s.history.size + 1) s.history.displays s.shared with
        ⟨shared, e | errors⟩ <;> rw [hr] at hm'
      · exact ⟨_, _, _, rfl, rfl, m', a, b, rfl, hm', ha, hb⟩
      · refine ⟨_, _, _, rfl, rfl, m', a, (b.1, b.2.push _), rfl, hm', ha, ?_⟩
        obtain rfl := hb
        rfl

theorem record_matches (hc : ∀ f, c₁.Simulates ρ c₂ f)
    (hroom : s.history.Admits (k s.history.capacity)) (h : Like ρ ω (Resized k) s t) :
    Matches ρ ω (Resized k) (s.record c₁) (t.record c₂) := by
  obtain ⟨m, a, b, rfl, hm, ha, hb⟩ := h
  obtain ⟨m', hcalls, hm'⟩ := diagnose_matches s.history.outputs (s.history.size + 1)
    (fun g _ => hc g) s.shared hm
  have hhistory : (s.holding m a b).history = s.history.withCapacity (k s.history.capacity) := by
    obtain rfl := hb
    rfl
  have hsecond : c₂.diagnose ((s.holding m a b).history.size + 1) (s.holding m a b).history.outputs
      (s.holding m a b).shared =
        c₂.diagnose (s.history.size + 1) s.history.outputs (s.shared.holding m) := by
    rw [hhistory]
    rfl
  rcases hr : c₁.diagnose (s.history.size + 1) s.history.outputs s.shared with
    ⟨shared, e | extras⟩ <;> rw [hr] at hm' hcalls
  · rw [record_of_error hr, record_of_error (hsecond.trans hcalls)]
    exact ⟨_, _, _, rfl, rfl, m', a, b, rfl, hm', ha, hb⟩
  · have hpush := History.push_withCapacity hroom (s.f :: infNorm s.g.toList :: extras)
    rw [← hhistory] at hpush
    have hpush : (s.holding m a b).history.push
        ((s.holding m a b).f :: infNorm (s.holding m a b).g.toList :: extras) = _ := hpush
    rw [record_of_ok hr, record_of_ok (hsecond.trans hcalls), hpush]
    cases hrow : s.history.push (s.f :: infNorm s.g.toList :: extras) with
    | error e => exact ⟨_, _, _, rfl, rfl, m', a, b, rfl, hm', ha, hb⟩
    | ok history =>
      obtain ⟨-, -, rfl⟩ := History.push_eq_ok_iff.mp hrow
      refine ⟨_, _, _, rfl, rfl, m', a, (_, b.2), rfl, hm', ha, ?_⟩
      obtain rfl := hb
      rfl

theorem note_matches (hc : ∀ f, c₁.Simulates ρ c₂ f)
    (hroom : s.history.Admits (k s.history.capacity)) (h : Like ρ ω (Resized k) s t) :
    Matches ρ ω (Resized k) (s.note c₁ p) (t.note c₂ p) := by
  have hnext : Like ρ ω (Resized k) { s with outer := s.outer + 1 }
      { t with outer := t.outer + 1 } := by
    obtain ⟨m, a, b, rfl, hm, ha, hb⟩ := h
    exact ⟨m, a, b, rfl, hm, ha, hb⟩
  obtain ⟨u, w, r, hu, hw, hlike⟩ := display_matches (p := p) hc hnext
  unfold note
  rw [hu, hw]
  cases r with
  | error e => exact ⟨u, w, _, rfl, rfl, hlike⟩
  | ok ok =>
    obtain ⟨shared, printed, rfl⟩ := display_eq hu
    exact record_matches hc hroom hlike

end Notes

theorem whole_lockstep (hc : ∀ f, c₁.Simulates ρ c₂ f) (hv : v₁.Simulates ρ v₂) :
    Lockstep (n := n) c₁ c₂ v₁ v₂ p p (Like ρ Eq (Resized id)) (Like ρ Eq (Resized id)) where
  turn h := by
    obtain ⟨u, w, r, hu, hw, hlike⟩ := advance_matches (d := p.settings.cadence) hv
      (fun g _ => hc g) h fun u w hlike _ _ => note_matches hc (.inl (rfl)) hlike
    exact ⟨u, w, r, hu, hw, hlike, fun _ => hlike⟩
  exhausted level message h := by
    obtain ⟨m, a, b, rfl, hm, ha, hb⟩ := h
    exact ⟨m, a, b, rfl, hm, ha, hb⟩

end RunState

def Outcome.holding (m : σ₂) (o : Outcome σ₁) : Outcome σ₂ where
  answer := o.answer
  cancel := o.cancel
  memory := m
  printed := o.printed
  logged := o.logged

theorem RunState.Like.outcome {s : RunState σ₁ n} {t : RunState σ₂ n} {k : Nat → Nat}
    (hmessage : ∀ (w : Workspace) (s : σ₁) (m : σ₂), ρ s m → v₂.message w m = v₁.message w s)
    (h : Like ρ Eq (Resized k) s t) (r : Except Error Status) :
    ∃ m, RunState.outcome v₂ (t, r) = (RunState.outcome v₁ (s, r)).holding m ∧
      ρ s.shared.memory m := by
  obtain ⟨m, _, b, rfl, hm, rfl, hb⟩ := h
  obtain rfl := hb
  refine ⟨m, ?_, hm⟩
  cases r with
  | error e => rfl
  | ok status =>
    have hsaid : v₂.message s.workspace m = v₁.message s.workspace s.shared.memory :=
      hmessage _ _ _ hm
    have hresult : (s.holding m (s.workspace, s.message)
        (s.history.withCapacity (k s.history.capacity), s.printed)).result v₂ status =
          s.result v₁ status := congrArg (Except.map _) hsaid
    simp only [RunState.outcome, Outcome.holding, Except.bind, hresult]
    rfl

/-- Client and solver decide what comes of `minimize`; which memories they use does not. -/
theorem minimize_simulates (hc : ∀ f, c₁.Simulates ρ c₂ f) (hv : v₁.Simulates ρ v₂)
    (fcn lower upper : Value) (opts : Option Value) (watched : Bool) (cancel : Cancellation)
    (s : σ₁) (m : σ₂) (hm : ρ s m) :
    ∃ m', minimize c₂ v₂ fcn lower upper opts watched cancel m =
        (minimize c₁ v₁ fcn lower upper opts watched cancel s).holding m' ∧
      ρ (minimize c₁ v₁ fcn lower upper opts watched cancel s).memory m' := by
  cases hchecked : checkArguments fcn lower upper opts with
  | error e =>
    rw [minimize_of_unchecked hchecked, minimize_of_unchecked hchecked]
    exact ⟨m, rfl, hm⟩
  | ok a =>
    obtain ⟨m', hw₂, hm'⟩ := hv.allocate a.x0.length (a.options.m : Int) s m hm
    rcases hw₁ : v₁.allocate a.x0.length (a.options.m : Int) s with ⟨left, e | w⟩ <;>
      rw [hw₁] at hw₂ hm'
    · rw [minimize_of_unallocated hchecked hw₁, minimize_of_unallocated hchecked hw₂]
      exact ⟨m', rfl, hm'⟩
    · cases hrecord : a.options.history with
      | error e =>
        rw [minimize_of_unrecorded hchecked hw₁ hrecord,
          minimize_of_unrecorded hchecked hw₂ hrecord]
        exact ⟨m', rfl, hm'⟩
      | ok record =>
        have hstart : RunState.Like ρ Eq (RunState.Resized id)
            (a.opened watched cancel w record left) (a.opened watched cancel w record m') :=
          ⟨m', _, _, rfl, hm', rfl, rfl⟩
        obtain ⟨u, u', r, hu, hu', hlike⟩ :=
          (RunState.whole_lockstep (p := a.problem watched) hc hv).loop a.options.maxTotalIts
            a.options.maxTotalIts hstart
        obtain ⟨m'', hsame, hm''⟩ := hlike.outcome hv.message r
        rw [minimize_eq_loop hchecked hw₁ hrecord, minimize_eq_loop hchecked hw₂ hrecord, hu, hu']
        exact ⟨m'', hsame, hm''⟩

end BoxMin
