import BoxMin.Proofs.Run.Reaching
import BoxMin.Proofs.Run.Simulation
import BoxMin.Solver.Opening

/-!
Who changes the cancellation. A run leaves it as the last call of the caller's code left it; a point
that an evaluator declares infeasible is no such change. So runs that follow each other on one
cancellation do not disturb each other as long as no call sets it.
-/

set_option autoImplicit false

namespace BoxMin

variable {σ τ : Type} {n : Nat}

def Client.beside (c : Client σ) : Client (σ × τ) where
  call f s :=
    let (t, answer) := c.call f { s with memory := s.memory.1 }
    ({ t with memory := (t.memory, s.memory.2) }, answer)

def Solver.beside (v : Solver σ) : Solver (σ × τ) where
  allocate n m s :=
    let (memory, answer) := v.allocate n m s.1
    ((memory, s.2), answer)
  step q b s :=
    let (b, memory, answer) := v.step q b s.1
    (b, (memory, s.2), answer)
  message w t := v.message w t.1

def Solver.apart (v : Solver τ) : Solver (σ × τ) where
  allocate n m s :=
    let (memory, answer) := v.allocate n m s.2
    ((s.1, memory), answer)
  step q b s :=
    let (b, memory, answer) := v.step q b s.2
    (b, (s.1, memory), answer)
  message w t := v.message w t.2

section Changes

def Client.traced (c : Client σ) : Client (σ × List (Cancellation × Cancellation)) where
  call f s :=
    let (t, answer) := c.beside.call f s
    ({ t with memory := (t.memory.1, s.memory.2 ++ [(s.cancel, t.cancel)]) }, answer)

variable (c : Client σ) (v : Solver σ) (fcn lower upper : Value) (opts : Option Value)
  (watched : Bool) (cancel : Cancellation) (memory : σ)

/-- The same run, with what its calls of the caller's code make of the cancellation. -/
def tracedRun : Outcome (σ × List (Cancellation × Cancellation)) :=
  minimize c.traced v.beside fcn lower upper opts watched cancel (memory, [])

def changes : List (Cancellation × Cancellation) :=
  (tracedRun c v fcn lower upper opts watched cancel memory).memory.2

/-- The changes follow each other without a gap, from `k` to the cancellation after the last. -/
inductive Linked (k : Cancellation) : List (Cancellation × Cancellation) → Cancellation → Prop where
  | start : Linked k [] k
  | step {past : List (Cancellation × Cancellation)} {k' k'' : Cancellation}
      (h : Linked k past k') : Linked k (past ++ [(k', k'')]) k''

theorem Linked.unset {k k' : Cancellation} {past : List (Cancellation × Cancellation)}
    (h : Linked k past k') (hk : k.isSet = false)
    (hpast : ∀ change ∈ past, change.2.isSet = false) : k'.isSet = false := by
  cases h with
  | start => exact hk
  | step h => exact hpast _ (List.mem_append_right _ (List.mem_singleton_self _))

theorem Reaches.linked {c : Client σ} {v : Solver σ} {k k' : Cancellation}
    {m m' : σ × List (Cancellation × Cancellation)} (h : Reaches c.traced v.beside k m k' m')
    (hm : m.2 = []) : Linked k m'.2 k' := by
  induction h with
  | refl =>
    rw [hm]
    exact .start
  | call f _ ih => exact ih.step
  | step q b _ ih => exact ih

theorem Client.traced_simulates (f : Callable) :
    c.traced.Simulates (fun t m => t.1 = m) c f := by
  rintro n a m rfl
  exact ⟨_, rfl, rfl⟩

theorem Solver.beside_simulates :
    (v.beside : Solver (σ × τ)).Simulates (fun t m => t.1 = m) v where
  allocate n k t m hm := by
    subst hm
    exact ⟨_, rfl, rfl⟩
  step q b t m hm := by
    subst hm
    exact ⟨_, rfl, rfl⟩
  message w t m hm := by
    subst hm
    rfl

theorem tracedRun_eq : (tracedRun c v fcn lower upper opts watched cancel memory).holding
      (tracedRun c v fcn lower upper opts watched cancel memory).memory.1 =
    minimize c v fcn lower upper opts watched cancel memory := by
  obtain ⟨m, hsame, rfl⟩ := minimize_simulates c.traced_simulates v.beside_simulates fcn lower upper
    opts watched cancel (memory, []) memory rfl
  exact hsame.symm

theorem linked_changes : Linked cancel (changes c v fcn lower upper opts watched cancel memory)
    (minimize c v fcn lower upper opts watched cancel memory).cancel := by
  obtain ⟨left, hleft, hreaches⟩ :=
    minimize_reaches c.traced v.beside fcn lower upper opts watched cancel (memory, [])
  have hnone : left.2 = [] := by
    obtain rfl | ⟨n, m, rfl⟩ := hleft <;> rfl
  rw [← tracedRun_eq]
  exact hreaches.linked hnone

end Changes

section Series

/-- What a routine does does not depend on what it has kept from earlier calls. -/
def Routine.Stateless (r : Routine τ) : Prop :=
  ∀ {n : Nat} (call : RoutineCall) (b : Buffers n) (t t' : τ),
    (r.call call b t).1 = (r.call call b t').1 ∧ (r.call call b t).2.2 = (r.call call b t').2.2

structure Job where
  {σ : Type}
  client : Client σ
  memory : σ
  fcn : Value
  lower : Value
  upper : Value
  opts : Option Value := none
  watched : Bool := true

/-- What the caller can see of an outcome; what the routine keeps is not among it. -/
def Outcome.visible (o : Outcome (σ × τ)) : Outcome σ := o.holding o.memory.1

namespace Job

variable (a : Adapter) (r : Routine τ) (cancel : Cancellation) (t : τ)

def run (j : Job) : Outcome (j.σ × τ) :=
  minimize j.client.beside (a.solver r).apart j.fcn j.lower j.upper j.opts j.watched cancel
    (j.memory, t)

def changes (j : Job) : List (Cancellation × Cancellation) :=
  BoxMin.changes j.client.beside (a.solver r).apart j.fcn j.lower j.upper j.opts j.watched cancel
    (j.memory, t)

/-- Runs one after the other, each on the cancellation and with the routine that the one before it
leaves. -/
def series : Cancellation → τ → List Job → List ((j : Job) × Outcome j.σ)
  | _, _, [] => []
  | cancel, t, j :: js =>
    ⟨j, (j.run a r cancel t).visible⟩ ::
      series (j.run a r cancel t).cancel (j.run a r cancel t).memory.2 js

/-- No call of the caller's code in any of these runs leaves the cancellation set. -/
def NeverSet : Cancellation → τ → List Job → Prop
  | _, _, [] => True
  | cancel, t, j :: js =>
    (∀ change ∈ j.changes a r cancel t, change.2.isSet = false) ∧
      NeverSet (j.run a r cancel t).cancel (j.run a r cancel t).memory.2 js

instance decidableNeverSet : (cancel : Cancellation) → (t : τ) → (jobs : List Job) →
    Decidable (NeverSet a r cancel t jobs)
  | _, _, [] => .isTrue trivial
  | cancel, t, j :: js =>
    have := decidableNeverSet (j.run a r cancel t).cancel (j.run a r cancel t).memory.2 js
    inferInstanceAs (Decidable ((∀ change ∈ j.changes a r cancel t, change.2.isSet = false) ∧
      NeverSet a r (j.run a r cancel t).cancel (j.run a r cancel t).memory.2 js))

end Job

variable {a : Adapter} {r : Routine τ}

theorem Routine.Stateless.step (h : r.Stateless) (q : Query) (b : Buffers n) (t t' : τ) :
    (a.step r q b t).1 = (a.step r q b t').1 ∧ (a.step r q b t).2.2 = (a.step r q b t').2.2 := by
  obtain ⟨hbuffers, hanswer⟩ := h (a.routineCall q) b t t'
  unfold Adapter.step
  rcases hr : r.call (a.routineCall q) b t with ⟨b₁, s₁, e | ⟨⟩⟩ <;>
    rcases hr' : r.call (a.routineCall q) b t' with ⟨b₂, s₂, e' | ⟨⟩⟩ <;>
    simp_all

def SameFirst (s s' : σ × τ) : Prop := s.1 = s'.1

theorem Routine.Stateless.simulates (h : r.Stateless) :
    ((a.solver r).apart : Solver (σ × τ)).Simulates SameFirst (a.solver r).apart where
  allocate n k s m hm := ⟨m, rfl, hm⟩
  step q b s m hm := by
    obtain ⟨hbuffers, hanswer⟩ := h.step (a := a) q b m.2 s.2
    exact ⟨(m.1, (a.step r q b m.2).2.1), Prod.ext hbuffers (Prod.ext rfl hanswer), hm⟩
  message _ _ _ _ := rfl

theorem Client.beside_simulates (c : Client σ) (f : Callable) :
    (c.beside : Client (σ × τ)).Simulates SameFirst c.beside f := by
  rintro n s ⟨m, t⟩ hm
  obtain rfl : s.memory.1 = m := hm
  exact ⟨(_, t), rfl, rfl⟩

theorem Job.run_visible (h : r.Stateless) (cancel : Cancellation) (t t' : τ) (j : Job) :
    (j.run a r cancel t).visible = (j.run a r cancel t').visible := by
  obtain ⟨m, hsame, hm⟩ := minimize_simulates j.client.beside_simulates (h.simulates (a := a))
    j.fcn j.lower j.upper j.opts j.watched cancel (j.memory, t) (j.memory, t') rfl
  have hsecond : j.run a r cancel t' = (j.run a r cancel t).holding m := hsame
  have hfirst : (j.run a r cancel t).memory.1 = m.1 := hm
  rw [hsecond, Outcome.visible, hfirst]
  rfl

theorem Cancellation.eq_of_not_isSet {k : Cancellation} (h : k.isSet = false) : k = {} := by
  obtain ⟨_ | reason⟩ := k
  · rfl
  · cases h

theorem Job.cancel_unset {j : Job} {t : τ}
    (h : ∀ change ∈ j.changes a r {} t, change.2.isSet = false) : (j.run a r {} t).cancel = {} :=
  Cancellation.eq_of_not_isSet ((linked_changes ..).unset rfl h)

theorem Job.series_eq (h : r.Stateless) (t t' : τ) (jobs : List Job)
    (hset : Job.NeverSet a r {} t jobs) :
    Job.series a r {} t jobs = jobs.map fun j => ⟨j, (j.run a r {} t').visible⟩ := by
  induction jobs generalizing t with
  | nil => rfl
  | cons j js ih =>
    obtain ⟨hunset, hrest⟩ := hset
    rw [Job.cancel_unset hunset] at hrest
    unfold Job.series
    rw [Job.cancel_unset hunset, ih _ hrest, Job.run_visible h {} t t', List.map_cons]

end Series

/-- However a run ends, the cancellation is as the calls of the caller's code have left it: each of
them finds it as the one before left it, and the last one leaves it as it is in the end. So runs one
after the other on an unset cancellation and with a stateless routine come out as each would alone,
unless one of those calls sets it. -/
theorem cancellation_left_to_client :
    (∀ {σ : Type} (c : Client σ) (v : Solver σ) (fcn lower upper : Value) (opts : Option Value)
      (watched : Bool) (cancel : Cancellation) (memory : σ),
      (tracedRun c v fcn lower upper opts watched cancel memory).holding
          (tracedRun c v fcn lower upper opts watched cancel memory).memory.1 =
        minimize c v fcn lower upper opts watched cancel memory ∧
      Linked cancel (changes c v fcn lower upper opts watched cancel memory)
        (minimize c v fcn lower upper opts watched cancel memory).cancel) ∧
    ∀ {τ : Type} (a : Adapter) (r : Routine τ), r.Stateless →
      ∀ (t fresh : τ) (jobs : List Job), Job.NeverSet a r {} t jobs →
        Job.series a r {} t jobs = jobs.map fun j => ⟨j, (j.run a r {} fresh).visible⟩ := by
  refine ⟨fun c v fcn lower upper opts watched cancel memory => ⟨?_, ?_⟩, ?_⟩
  · exact tracedRun_eq c v fcn lower upper opts watched cancel memory
  · exact linked_changes c v fcn lower upper opts watched cancel memory
  · exact fun a r h t fresh jobs hset => Job.series_eq h t fresh jobs hset

theorem openingRoutine_stateless : (openingRoutine τ).Stateless := fun _ _ _ _ => ⟨rfl, rfl⟩

def castJob (cast : Cast) : Job where
  client := cast.client
  memory := {}
  fcn := .callable ⟨0, "f", false⟩
  lower := .list [.float (-4.0)]
  upper := .list [.float 4.0]

def declaringThenSettled : List Job :=
  [castJob ⟨#[.failing (.infeasible []) 1]⟩, castJob ⟨#[.squares]⟩]

theorem cancellation_left_to_client_by_infeasible :
    Job.NeverSet {} (openingRoutine Unit) {} () declaringThenSettled ∧
      (Job.series {} (openingRoutine Unit) {} () declaringThenSettled).map
          (fun run => run.2.answer.toOption.map (·.status)) =
        [some .infeasible, some .converged] ∧
      Job.series {} (openingRoutine Unit) {} () declaringThenSettled =
        declaringThenSettled.map fun j => ⟨j, (j.run {} (openingRoutine Unit) {} ()).visible⟩ := by
  have hset : Job.NeverSet {} (openingRoutine Unit) {} () declaringThenSettled := by
    decide +kernel
  obtain ⟨-, hseries⟩ := cancellation_left_to_client
  exact ⟨hset, by decide +kernel, hseries {} _ openingRoutine_stateless () () _ hset⟩

end BoxMin
