import BoxMin.Proofs.Extent
import BoxMin.Proofs.Rehearsal
import BoxMin.Proofs.Run.Journal
import BoxMin.Proofs.Task

/-!
A routine that reports in numbers and one that reports in text. If both do the same to the point and
the gradient and tell the same in their status fields, nobody but the reader of messages can tell
their runs apart.
-/

set_option autoImplicit false

namespace BoxMin

variable {σ : Type} {n : Nat}

def Workspace.Announce (w₁ w₂ : Workspace) : Prop :=
  ∃ status detail bytes, w₁.task = .codes status detail ∧ w₂.task = .text bytes ∧
    Announces status bytes

/-- Called alike, both do the same to point, gradient and memory, and fail alike; what the first one
reports in numbers the second one reports in text. -/
def Routine.Counterparts (r₁ r₂ : Routine σ) : Prop :=
  ∀ {n : Nat} (k₁ k₂ : RoutineCall) (x g : Vector Float n) (w₁ w₂ : Workspace) (s : σ),
    k₁.query = k₂.query → w₁.Announce w₂ →
    ∃ x' g' w₁' w₂' s' r, r₁.call k₁ ⟨x, g, w₁⟩ s = (⟨x', g', w₁'⟩, s', r) ∧
      r₂.call k₂ ⟨x, g, w₂⟩ s = (⟨x', g', w₂'⟩, s', r) ∧ (r = .ok () → w₁'.Announce w₂')

def Result.quiet (r : Result) : Result := { r with message := "", solverMessage := "" }

def Outcome.quiet (o : Outcome σ) : Outcome σ := { o with answer := o.answer.map Result.quiet }

theorem announces_start : Announces 0 (padField (textBytes "START")) :=
  announces_padField .start "START" (by decide) (by decide)
    (List.prefix_refl _) (by decide)

namespace Workspace

theorem Announce.task_eq {w₁ w₂ : Workspace} (h : w₁.Announce w₂) :
    w₁.task.reply.task = w₂.task.reply.task := by
  obtain ⟨status, detail, bytes, h₁, h₂, hannounces⟩ := h
  rw [h₁, h₂]
  exact hannounces.task_eq.symm

theorem iwaSize_le_waSize (n m : Nat) : iwaSize n ≤ waSize n m := by
  have hm : (0 : Int) ≤ m := Int.natCast_nonneg m
  have hmn : (0 : Int) ≤ 2 * m * n := Int.mul_nonneg (by omega) (Int.natCast_nonneg n)
  have hmm : (0 : Int) ≤ 11 * m * m := Int.mul_nonneg (by omega) hm
  unfold iwaSize waSize
  omega

theorem allocate_announce (n m : Nat) (t : IntType) :
    (∃ e, allocate (n : Int) (m : Int) .int32 false = .error e ∧
      allocate (n : Int) (m : Int) (.int t) true = .error e) ∨
    ∃ w₁ w₂, allocate (n : Int) (m : Int) .int32 false = .ok w₁ ∧
      allocate (n : Int) (m : Int) (.int t) true = .ok w₂ ∧ w₁.Announce w₂ := by
  have hnonneg : 0 ≤ BoxMin.iwaSize n := by unfold iwaSize; omega
  unfold allocate
  cases hwa : orFault (do Area.ofLength (← Operand.waSize (n : Int) (m : Int)).value .float64) with
  | error e => exact .inl ⟨e, rfl, rfl⟩
  | ok wa =>
    -- the area of doubles is made first and is the larger one, so only it can be refused
    have hdoubles := (Area.ofLength_computed (Operand.waSize_plain n m)).mp hwa
    have hroom (t : IntType) := (Area.ofLength_computed (Operand.iwaSize_plain n)).mpr
      (Area.ofLength_mono (t := t) hnonneg (iwaSize_le_waSize n m) hdoubles)
    rw [bind_of_ok rfl, bind_of_ok rfl]
    exact .inr ⟨_, _, bind_of_ok (hroom .int32), bind_of_ok (hroom t), 0, 0, _, rfl, rfl,
      announces_start⟩

end Workspace

section Runs

variable {c : Client σ} {p : Problem} {r₁ r₂ : Routine σ}

namespace RunState

/-- The status fields tell the same; the texts may differ. -/
def Agree (a b : Remarks) : Prop := a.1.Announce b.1

theorem callSolver_of_call {a : Adapter} {r : Routine σ} {s : RunState σ n} {b : Buffers n}
    {memory : σ} {answer : Except Error Unit}
    (h : r.call (a.routineCall (s.query p)) s.buffers s.shared.memory = (b, memory, answer)) :
    s.callSolver (a.solver r) p = match answer with
      | .error e => (s.withBuffers b memory, .error e)
      | .ok () => ({ s.withBuffers b memory with
          task := b.workspace.task.reply.task, message := b.workspace.task.reply.message,
          total := s.total + 1 }, .ok ()) := by
  simp only [callSolver, Adapter.solver, Adapter.step, h]
  cases answer <;> rfl

theorem callSolver_counterparts (a₁ a₂ : Adapter) (h : r₁.Counterparts r₂) {s t : RunState σ n}
    (hlike : Like Eq Agree (Resized id) s t) :
    ∃ u w r, s.callSolver (a₁.solver r₁) p = (u, r) ∧ t.callSolver (a₂.solver r₂) p = (w, r) ∧
      Like Eq (fun _ _ => True) (Resized id) u w ∧
      (r = .ok () → Like Eq Agree (Resized id) u w) := by
  obtain ⟨_, ⟨w, m⟩, b, rfl, rfl, hw, hb⟩ := hlike
  obtain ⟨x, g, w₁, w₂, memory, answer, hcall₁, hcall₂, hannounce⟩ :=
    h (a₁.routineCall (s.query p)) (a₂.routineCall (s.query p)) s.shared.x s.g s.workspace w
      s.shared.memory rfl hw
  have hfirst := callSolver_of_call (a := a₁) (s := s) hcall₁
  have hsecond := callSolver_of_call (a := a₂) (s := s.holding s.shared.memory (w, m) b) hcall₂
  cases answer with
  | error e => exact ⟨_, _, _, hfirst, hsecond, ⟨_, (w₂, m), b, rfl, rfl, trivial, hb⟩, by simp⟩
  | ok ok =>
    have hannounce := hannounce rfl
    simp only [← hannounce.task_eq] at hsecond
    exact ⟨_, _, _, hfirst, hsecond, ⟨_, (w₂, _), b, rfl, rfl, trivial, hb⟩,
      fun _ => ⟨_, (w₂, _), b, rfl, rfl, hannounce, hb⟩⟩

theorem counterparts_lockstep (a₁ a₂ : Adapter) (h : r₁.Counterparts r₂) :
    Lockstep (n := n) c c (a₁.solver r₁) (a₂.solver r₂) p p (Like Eq Agree (Resized id))
      (Like Eq (fun _ _ => True) (Resized id)) where
  turn := by
    intro s t hlike
    obtain ⟨u, w, r, hu, hw, hcalled, hagree⟩ :=
      callSolver_counterparts (p := p) a₁ a₂ h hlike
    unfold advance
    rw [hu, hw]
    cases r with
    | error e => exact ⟨u, w, _, rfl, rfl, hcalled, by simp⟩
    | ok ok =>
      have hanswered := answer_matches (d := p.settings.cadence) (fun g _ => c.simulates_self g)
        (hagree rfl) (note_matches c.simulates_self (.inl rfl) (hagree rfl))
      obtain ⟨u', w', r, hu', hw', hlike'⟩ := hanswered
      exact ⟨u', w', r, hu', hw', hlike'.mono fun _ _ _ => trivial, fun _ => hlike'⟩
  exhausted := by
    rintro s _ level message ⟨m, a, b, rfl, hm, -, hb⟩
    exact ⟨m, a, b, rfl, hm, trivial, hb⟩

theorem result_adapter (a : Adapter) (r : Routine σ) (s : RunState σ n) (status : Status) :
    s.result (a.solver r) status = .ok (s.summary status (a.message s.workspace)) := rfl

theorem Like.quiet_outcome (a₁ a₂ : Adapter) (r₁ r₂ : Routine σ) {ω : Remarks → Remarks → Prop}
    {s t : RunState σ n} (h : Like Eq ω (Resized id) s t) (r : Except Error Status) :
    (RunState.outcome (a₂.solver r₂) (t, r)).quiet =
      (RunState.outcome (a₁.solver r₁) (s, r)).quiet := by
  obtain ⟨_, a, b, rfl, rfl, -, hb⟩ := h
  obtain rfl := hb
  have hanswer : (r.bind ((s.holding s.shared.memory a
      (s.history.withCapacity s.history.capacity, s.printed)).result (a₂.solver r₂))).map
        Result.quiet = (r.bind (s.result (a₁.solver r₁))).map Result.quiet := by
    cases r with
    | error e => simp only [Except.bind]
    | ok status =>
      simp only [Except.bind, result_adapter]
      rfl
  exact congrArg (fun answer => (⟨answer, s.shared.cancel, s.shared.memory, s.printed.toList,
    s.logged.toList⟩ : Outcome σ)) hanswer

end RunState

theorem allocate_eq (a : Adapter) (r : Routine σ) (n : Nat) (m : Operand) (s : σ)
    {w : Except Error Workspace}
    (h : Workspace.allocate (n : Int) m a.protocol.element a.protocol.isText = w) :
    (a.solver r).allocate n m s = (s, w) := by
  rw [← h]
  rfl

theorem minimize_counterparts (h : r₁.Counterparts r₂) (t : IntType)
    (maxls₁ iprint₁ maxls₂ iprint₂ : Int) (c : Client σ) (fcn lower upper : Value)
    (opts : Option Value) (watched : Bool) (cancel : Cancellation) (memory : σ) :
    (minimize c (Adapter.solver ⟨.text (.int t), maxls₂, iprint₂⟩ r₂) fcn lower upper opts watched
        cancel memory).quiet =
      (minimize c (Adapter.solver ⟨.codes, maxls₁, iprint₁⟩ r₁) fcn lower upper opts watched cancel
        memory).quiet := by
  cases hchecked : checkArguments fcn lower upper opts with
  | error e => rw [minimize_of_unchecked hchecked, minimize_of_unchecked hchecked]
  | ok a =>
    obtain ⟨e, he₁, he₂⟩ | ⟨w₁, w₂, hw₁, hw₂, hw⟩ :=
      Workspace.allocate_announce a.x0.length a.options.m t
    · have he₁ := allocate_eq ⟨.codes, maxls₁, iprint₁⟩ r₁ _ _ memory he₁
      have he₂ := allocate_eq ⟨.text (.int t), maxls₂, iprint₂⟩ r₂ _ _ memory he₂
      rw [minimize_of_unallocated hchecked he₁, minimize_of_unallocated hchecked he₂]
    · have hw₁ := allocate_eq ⟨.codes, maxls₁, iprint₁⟩ r₁ _ _ memory hw₁
      have hw₂ := allocate_eq ⟨.text (.int t), maxls₂, iprint₂⟩ r₂ _ _ memory hw₂
      cases hrecord : a.options.history with
      | error e =>
        rw [minimize_of_unrecorded hchecked hw₁ hrecord,
          minimize_of_unrecorded hchecked hw₂ hrecord]
      | ok record =>
        have hlockstep := RunState.counterparts_lockstep (n := a.x0.toArray.size) (c := c)
          (p := a.problem watched) ⟨.codes, maxls₁, iprint₁⟩ ⟨.text (.int t), maxls₂, iprint₂⟩ h
        have hstart : RunState.Like Eq RunState.Agree (RunState.Resized id)
            (a.opened watched cancel w₁ record memory) (a.opened watched cancel w₂ record memory) :=
          ⟨_, (w₂, "START"), _, rfl, rfl, hw, rfl⟩
        obtain ⟨s, t, r, hs, ht, hlike⟩ :=
          hlockstep.loop a.options.maxTotalIts a.options.maxTotalIts hstart
        rw [minimize_eq_loop hchecked hw₁ hrecord, minimize_eq_loop hchecked hw₂ hrecord, hs, ht]
        exact hlike.quiet_outcome _ _ r₁ r₂ r

def Routine.carried (r : Routine σ) : Routine (Journaled σ) where
  call k b t :=
    let (b, memory, answer) := r.call k b t.memory
    (b, { t with memory }, answer)

theorem Routine.Counterparts.carried (h : r₁.Counterparts r₂) :
    r₁.carried.Counterparts r₂.carried := by
  intro n k₁ k₂ x g w₁ w₂ t hk hw
  obtain ⟨x', g', w₁', w₂', memory, answer, h₁, h₂, hannounce⟩ := h k₁ k₂ x g w₁ w₂ t.memory hk hw
  refine ⟨x', g', w₁', w₂', { t with memory }, answer, ?_, ?_, hannounce⟩
  · simp only [Routine.carried, h₁]
  · simp only [Routine.carried, h₂]

theorem Adapter.solver_carried (a : Adapter) (r : Routine σ) :
    (a.solver r).carried = a.solver r.carried := by
  have hstep : ∀ {n : Nat} (q : Query) (b : Buffers n) (t : Journaled σ),
      (a.solver r).carried.step q b t = (a.solver r.carried).step q b t := by
    intro n q b t
    simp only [Solver.carried, solver, step, Routine.carried]
    rcases hcall : r.call (a.routineCall q) b t.memory with ⟨b', memory, e | ok⟩ <;>
      simp only [hcall]
  simp only [Solver.carried, solver] at hstep ⊢
  congr
  funext n q b t
  exact hstep q b t

/-- One routine reports in numbers, the other in text; either way evaluator and diagnostics are
called alike, and all but the messages is the same in the end. -/
theorem backends_drive_same_run (h : r₁.Counterparts r₂) (t : IntType)
    (maxls₁ iprint₁ maxls₂ iprint₂ : Int) (c : Client σ) (fcn lower upper : Value)
    (opts : Option Value) (watched : Bool) (cancel : Cancellation) (memory : σ) :
    clientCalls c (Adapter.solver ⟨.text (.int t), maxls₂, iprint₂⟩ r₂) fcn lower upper opts watched
        cancel memory =
      clientCalls c (Adapter.solver ⟨.codes, maxls₁, iprint₁⟩ r₁) fcn lower upper opts watched cancel
        memory ∧
    (minimize c (Adapter.solver ⟨.text (.int t), maxls₂, iprint₂⟩ r₂) fcn lower upper opts watched
        cancel memory).quiet =
      (minimize c (Adapter.solver ⟨.codes, maxls₁, iprint₁⟩ r₁) fcn lower upper opts watched cancel
        memory).quiet := by
  refine ⟨?_, minimize_counterparts h t ..⟩
  unfold clientCalls
  rw [Adapter.solver_carried, Adapter.solver_carried]
  have hsame := minimize_counterparts h.carried t maxls₁ iprint₁ maxls₂ iprint₂ c.journaled fcn
    lower upper opts watched cancel { memory }
  exact congrArg (fun o => o.memory.events) hsame

end Runs

section Rehearsed

structure Report where
  status : Int
  detail : Int
  text : String

def Report.codes (r : Report) : Stored := .codes r.status r.detail

def Report.words (r : Report) : Stored := .text (textBytes r.text) none

theorem Script.counterparts {s : Script Report}
    (h : ∀ e ∈ s.after :: s.entries.toList, Announces e.2.status (padField (textBytes e.2.text))) :
    (s.map Report.codes).routine.Counterparts (s.map Report.words).routine := by
  intro n k₁ k₂ x g w₁ w₂ m hk hw
  have hreport := h _ (s.next_mem m)
  rw [routine_call_eq, routine_call_eq, next_map, next_map]
  -- the move does not look at the work areas, so it is the same next to either of them
  have hmove : (s.next m).1.make ⟨x, g, w₂⟩ = _ := (s.next m).1.make_beside ⟨x, g, w₁⟩ w₂
  rw [hmove]
  rcases (s.next m).1.make ⟨x, g, w₁⟩ with ⟨b, e | ok⟩
  · exact ⟨b.x, b.g, b.workspace, w₂, _, .error e, rfl, rfl, by simp⟩
  · exact ⟨b.x, b.g, _, _, _, .ok (), rfl, rfl, fun _ => ⟨_, _, _, rfl, rfl, hreport⟩⟩

def agreedScript : Script Report where
  entries := #[({ set := some [0.5] }, ⟨3, 301, "FG_START"⟩), ({}, ⟨1, 0, "NEW_X"⟩)]
  after := ({}, ⟨4, 401, "CONVERGENCE: NORM_OF_PROJECTED_GRADIENT_<=_PGTOL"⟩)

theorem agreedScript_announces : ∀ e ∈ agreedScript.after :: agreedScript.entries.toList,
    Announces e.2.status (padField (textBytes e.2.text)) := by
  intro e he
  simp only [agreedScript, List.mem_cons, List.not_mem_nil, or_false] at he
  obtain rfl | rfl | rfl := he
  · exact announces_padField .convergence "CONV" (by decide) (by decide)
      (by decide) (by decide)
  · exact announces_padField .requestFG "FG" (by decide) (by decide)
      (by decide) (by decide)
  · exact announces_padField .newX "NEW_X" (by decide) (by decide)
      (by decide) (by decide)

def rehearseRoutine (protocol : Protocol) (routine : Routine Memory) : Outcome Memory :=
  minimize (Cast.client ⟨#[.squares]⟩) (Adapter.solver ⟨protocol, 20, -1⟩ routine)
    (.callable ⟨0, "f", false⟩) (.list [.float (-4.0)]) (.list [.float 4.0]) none true {} {}

theorem backends_drive_same_run_to_convergence :
    ∃ r r', (rehearseRoutine .codes (agreedScript.map Report.codes).routine).answer = .ok r ∧
      (rehearseRoutine (.text .int64) (agreedScript.map Report.words).routine).answer = .ok r' ∧
      r.status = .converged ∧ r.nit = 1 ∧ r'.quiet = r.quiet ∧ r'.message ≠ r.message := by
  obtain ⟨-, hsame⟩ := backends_drive_same_run (Script.counterparts agreedScript_announces) .int64
    20 (-1) 20 (-1) (Cast.client ⟨#[.squares]⟩) (.callable ⟨0, "f", false⟩) (.list [.float (-4.0)])
    (.list [.float 4.0]) none true {} {}
  obtain ⟨r, hr, hread⟩ : ∃ r,
      (rehearseRoutine .codes (agreedScript.map Report.codes).routine).answer = .ok r ∧
        (r.status, r.nit, r.message) =
          (.converged, 1, "CONVERGENCE: NORM OF PROJECTED GRADIENT <= PGTOL") :=
    exists_of_map_toOption (by decide +kernel)
  obtain ⟨r', hr', hread'⟩ : ∃ r',
      (rehearseRoutine (.text .int64) (agreedScript.map Report.words).routine).answer = .ok r' ∧
        r'.message = "CONVERGENCE: NORM_OF_PROJECTED_GRADIENT_<=_PGTOL" :=
    exists_of_map_toOption (by decide +kernel)
  simp only [Prod.mk.injEq] at hread
  obtain ⟨hstatus, hnit, hmessage⟩ := hread
  refine ⟨r, r', hr, hr', hstatus, hnit, ?_, ?_⟩
  · have hanswers : (Except.ok r' : Except Error Result).map Result.quiet =
        (Except.ok r : Except Error Result).map Result.quiet := by
      rw [← hr, ← hr']
      exact congrArg Outcome.answer hsame
    exact Except.ok.inj hanswers
  · rw [hmessage, hread']
    decide

end Rehearsed

end BoxMin
