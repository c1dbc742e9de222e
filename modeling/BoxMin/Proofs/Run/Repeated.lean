import BoxMin.Proofs.Run.Raising

/-!
Runs that go on where the last one ended. An iterate is counted before it is shown and recorded, so a
run that fails in between leaves the count one ahead of the record, and no later run makes up for
it. That is the only way in which the two come apart.
-/

set_option autoImplicit false

namespace BoxMin

namespace RunState

variable {σ : Type} {n : Nat}

/-- Does the turn that begins in `s` lose an iterate? It does if the solver reports one and showing
or recording it fails. -/
def losesIterate (c : Client σ) (v : Solver σ) (p : Problem) (s : RunState σ n) : Bool :=
  match (s.callSolver v p).2, ((s.told v p).note c p).2 with
  | .ok (), .error _ => s.reply v p = .newX
  | _, _ => false

def endsInLoss (c : Client σ) (v : Solver σ) (p : Problem) (ts : List (RunState σ n)) : Bool :=
  ts.getLast?.any (losesIterate c v p)

/-- So many iterates were counted that the record has no row of, and the record is within its
capacity. -/
structure Ahead (capacity lost : Nat) (s : RunState σ n) : Prop where
  outer : s.outer = s.history.size + lost
  rows : s.history.size ≤ capacity
  capacity : s.history.capacity = capacity

variable {c : Client σ} {v : Solver σ} {p : Problem} {s t u w : RunState σ n}
  {past ts : List (RunState σ n)} {limit : Int} {capacity k lost : Nat} {r : Progress}

theorem losesIterate_iff : s.losesIterate c v p = true ↔
    (s.callSolver v p).2 = .ok () ∧ s.reply v p = .newX ∧
      ∃ u e, (s.told v p).note c p = (u, .error e) := by
  unfold losesIterate
  rcases hcall : (s.callSolver v p).2 with e | ⟨⟩ <;>
    rcases hnote : (s.told v p).note c p with ⟨u, e | ⟨⟩⟩ <;> simp

theorem evaluate_outer (t : RunState σ n) : (t.evaluate c p).1.outer = t.outer := by
  obtain ⟨f, g, declared, h⟩ := t.evaluate_eq (c := c) (p := p)
  rw [h]

theorem note_error {e : Error} (h : t.note c p = (u, .error e)) :
    u.outer = t.outer + 1 ∧ u.history = t.history := by
  unfold note at h
  rcases hdisplay : ({ t with outer := t.outer + 1 } : RunState σ n).display c p with ⟨d, e' | ⟨⟩⟩
  · obtain ⟨shared, printed, rfl⟩ := display_eq hdisplay
    rw [hdisplay] at h
    cases h
    exact ⟨rfl, rfl⟩
  · obtain ⟨shared, printed, rfl⟩ := display_eq hdisplay
    rw [hdisplay] at h
    dsimp only at h
    unfold record at h
    split at h
    · cases h
      exact ⟨rfl, rfl⟩
    · cases h

theorem failed_of_losesIterate (h : s.losesIterate c v p = true) :
    ∃ w e, s.advance c v p = (w, .failed e) := by
  obtain ⟨hcall, ht, u, e, hnote⟩ := losesIterate_iff.mp h
  exact ⟨u, e, advance_of_respond_error hcall ((respond_iterate ht).trans hnote)⟩

theorem losesIterate_eq_false (ha : s.advance c v p = (w, r)) (hr : ∀ e, r ≠ .failed e) :
    s.losesIterate c v p = false := by
  rw [← Bool.not_eq_true]
  intro hlost
  obtain ⟨w', e, hfailed⟩ := failed_of_losesIterate hlost
  rw [ha] at hfailed
  cases hfailed
  exact hr e rfl

theorem Finish.endsInLoss_eq_false {status : Status} (hf : Finish c v p limit k s ts w (.ok status)) :
    endsInLoss c v p ts = false := by
  cases hf with
  | exhausted hc hk =>
    cases hc with
    | start => rfl
    | step hc ha => simp [endsInLoss, losesIterate_eq_false ha]
  | ended hc hk ha => simp [endsInLoss, losesIterate_eq_false ha]

namespace Ahead

theorem told (h : s.Ahead capacity lost) : (s.told v p).Ahead capacity lost :=
  ⟨by rw [told_outer, told_history]; exact h.outer, by rw [told_history]; exact h.rows,
    by rw [told_history]; exact h.capacity⟩

theorem logged (h : s.Ahead capacity lost) (logged : Array LogEntry) :
    ({ s with logged } : RunState σ n).Ahead capacity lost := ⟨h.outer, h.rows, h.capacity⟩

theorem answered (h : t.Ahead capacity lost) (hu : Answered c p t u) : u.Ahead capacity lost := by
  cases hu with
  | verdict => exact h
  | declared | evaluated => exact ⟨h.outer, h.rows, h.capacity⟩
  | noted ht hdisplay hcalls hpush =>
    obtain ⟨hroom, -, rfl⟩ := History.push_eq_ok_iff.mp hpush
    have houter := h.outer
    have hcapacity := h.capacity
    simp only [History.size] at houter hroom
    constructor
    · simp only [History.size, Array.size_push]; omega
    · simp only [History.size, Array.size_push]; omega
    · exact hcapacity

/-- A turn puts the count ahead of the record by the iterate it loses, if it loses one. -/
theorem advance (h : s.Ahead capacity lost) (ha : s.advance c v p = (w, r)) :
    w.Ahead capacity (lost + (s.losesIterate c v p).toNat) := by
  by_cases hr : ∃ e, r = .failed e
  · obtain ⟨e, rfl⟩ := hr
    cases turn_of_advance ha with
    | refused hcall =>
      have hkept : s.losesIterate c v p = false := by simp [losesIterate, hcall]
      rw [hkept]
      exact h.told
    | failed hcall ht hrespond =>
      have htold : (s.told v p).Ahead capacity lost := h.told
      rcases Task.keepsRunning_iff.mp ht with hrequest | hiterate
      · have hkept : s.losesIterate c v p = false := by
          rw [← Bool.not_eq_true, losesIterate_iff]
          rintro ⟨-, hnew, -⟩
          simp [hrequest] at hnew
        obtain ⟨-, hhistory⟩ := evaluate_frame (c := c) (p := p) (s.told v p)
        have houter := evaluate_outer (c := c) (p := p) (s.told v p)
        rw [respond_request hrequest] at hrespond
        rw [hrespond] at hhistory houter
        rw [hkept]
        exact ⟨by rw [houter, hhistory]; exact htold.outer, by rw [hhistory]; exact htold.rows,
          by rw [hhistory]; exact htold.capacity⟩
      · rw [respond_iterate hiterate] at hrespond
        have hlost := losesIterate_iff.mpr ⟨hcall, hiterate, w, e, hrespond⟩
        obtain ⟨houter, hhistory⟩ := note_error hrespond
        rw [hlost]
        refine ⟨?_, by rw [hhistory]; exact htold.rows, by rw [hhistory]; exact htold.capacity⟩
        rw [houter, hhistory, htold.outer]
        rfl
  · have hr : ∀ e, r ≠ .failed e := fun e he => hr ⟨e, he⟩
    obtain ⟨-, u, logged, hu, rfl⟩ := answered_of_advance ha hr
    rw [losesIterate_eq_false ha hr]
    exact (h.told.answered hu).logged logged

theorem course (h : s.Ahead capacity lost) (hc : Course c v p s past u) :
    u.Ahead capacity lost := by
  induction hc with
  | start => exact h
  | step _ ha ih =>
    have hw := ih.advance ha
    rwa [losesIterate_eq_false ha (by simp)] at hw

theorem finish {final : Except Error Status} (h : s.Ahead capacity lost)
    (hf : Finish c v p limit k s ts w final) :
    w.Ahead capacity (lost + (endsInLoss c v p ts).toNat) := by
  cases hf with
  | exhausted hc hk =>
    have hdone : Finish c v p limit _ s ts _ (.ok .maxTotalIter) := .exhausted hc hk
    rw [hdone.endsInLoss_eq_false]
    exact (h.course hc).logged _
  | ended hc hk ha | failed hc hk ha =>
    have hw := (h.course hc).advance ha
    simpa [endsInLoss] using hw

end Ahead

end RunState

section Runs

variable {σ : Type} {n : Nat} {c : Client σ} {v : Solver σ}

namespace RunState

variable {p : Problem} {s w : RunState σ n} {capacity lost : Nat}

theorem run_of_unlimited {f : Fault} (h : p.settings.callLimit = .error f) :
    s.run c v p = (s.opened p, .error (.fault f)) ∧ s.runTurns c v p = [] := by
  have hdrive : s.drive c v p = (s.opened p, .error (.fault f)) := by
    unfold drive
    rw [h]
    rfl
  unfold run runTurns
  rw [hdrive, h]
  exact ⟨rfl, rfl⟩

theorem run_finish {limit : Number} (h : p.settings.callLimit = .ok limit) :
    ∃ final, Finish c v p limit.wholePart (limit.room s.total) (s.opened p) (s.runTurns c v p)
        (s.run c v p).1 final ∧ (s.run c v p).2 = final.bind ((s.run c v p).1.result v) := by
  have hfinish : Finish c v p limit.wholePart (limit.room s.total) (s.opened p)
      ((s.opened p).turns c v p (limit.room s.total)) _ _ :=
    loop_finish (limit.room s.total) (s.opened p)
  have hturns : s.runTurns c v p = (s.opened p).turns c v p (limit.room s.total) := by
    unfold runTurns
    rw [h]
  unfold run
  rw [hturns, drive_of_limit h]
  exact ⟨_, hfinish, rfl⟩

theorem Ahead.run (h : s.Ahead capacity lost) :
    (s.run c v p).1.Ahead capacity (lost + (endsInLoss c v p (s.runTurns c v p)).toNat) := by
  have hopened : (s.opened p).Ahead capacity lost := h.logged _
  cases hlimit : p.settings.callLimit with
  | error f =>
    obtain ⟨hrun, hturns⟩ := run_of_unlimited (c := c) (v := v) (s := s) hlimit
    rw [hrun, hturns]
    exact hopened
  | ok limit =>
    obtain ⟨final, hfinish, -⟩ := run_finish (c := c) (v := v) (s := s) hlimit
    exact hopened.finish hfinish

theorem run_ok {r : Result} (h : (s.run c v p).2 = .ok r) :
    endsInLoss c v p (s.runTurns c v p) = false ∧
      r.nit = (s.run c v p).1.outer ∧ r.history = (s.run c v p).1.history.toList := by
  cases hlimit : p.settings.callLimit with
  | error f =>
    obtain ⟨hrun, -⟩ := run_of_unlimited (c := c) (v := v) (s := s) hlimit
    rw [hrun] at h
    cases h
  | ok limit =>
    obtain ⟨final, hfinish, hanswer⟩ := run_finish (c := c) (v := v) (s := s) hlimit
    cases final with
    | error e =>
      rw [hanswer] at h
      cases h
    | ok status =>
      obtain ⟨text, -, rfl⟩ := result_eq_ok (hanswer.symm.trans h)
      exact ⟨hfinish.endsInLoss_eq_false, rfl, rfl⟩

end RunState

namespace Prepared

def losesIterate (c : Client σ) (v : Solver σ) (q : Prepared σ) : Bool :=
  RunState.endsInLoss c v q.problem (q.turns c v)

def lost (c : Client σ) (v : Solver σ) : List (Cancellation → Cancellation) → Prepared σ → Nat
  | [], _ => 0
  | change :: rest, q =>
    ((q.withCancel change).losesIterate c v).toNat + lost c v rest ((q.withCancel change).run c v).1

theorem ahead_runAll {capacity : Nat} {answer : Except Error Result} {w : Prepared σ}
    (changes : List (Cancellation → Cancellation)) (q : Prepared σ) (k : Nat)
    (h : q.state.Ahead capacity k) (hlast : (q.runAll c v changes).getLast? = some (answer, w)) :
    w.state.Ahead capacity (k + q.lost c v changes) ∧
      ∀ r, answer = .ok r → r.nit = w.state.outer ∧ r.history = w.state.history.toList := by
  induction changes generalizing q k with
  | nil => simp [runAll] at hlast
  | cons change rest ih =>
    have hchanged : (q.withCancel change).state.Ahead capacity k := ⟨h.outer, h.rows, h.capacity⟩
    have hrun : ((q.withCancel change).run c v).1.state.Ahead capacity
        (k + ((q.withCancel change).losesIterate c v).toNat) := hchanged.run
    rw [lost, ← Nat.add_assoc]
    simp only [runAll] at hlast
    cases hrest : Prepared.runAll c v rest ((q.withCancel change).run c v).1 with
    | nil =>
      cases rest with
      | nil =>
        simp only [hrest, List.getLast?_singleton, Option.some.injEq, Prod.mk.injEq] at hlast
        obtain ⟨hanswer, rfl⟩ := hlast
        refine ⟨hrun, fun r hr => ?_⟩
        subst hr
        have hok : ((q.withCancel change).state.run c v (q.withCancel change).problem).2 = .ok r :=
          hanswer
        exact (RunState.run_ok hok).2
      | cons => simp [runAll] at hrest
    | cons first others =>
      rw [hrest, List.getLast?_cons_cons, ← hrest] at hlast
      exact ih _ _ hrun hlast

end Prepared

theorem toCount_of_toLength {w : Value} {k : Int} (h : w.toLength = .ok k) : w.toCount = .ok k := by
  obtain ⟨j, hj, hholds⟩ := exists_of_bind_ok h
  split at hholds
  · cases hholds
    exact hj
  · cases hholds

theorem History.ofValues_ok {capacity outputs displays : Value} {record : History}
    (h : History.ofValues capacity outputs displays = .ok record) :
    capacity.toCount = .ok (record.capacity : Int) ∧ record.rows = #[] := by
  unfold History.ofValues at h
  obtain ⟨outputs, -, h⟩ := exists_of_bind_ok h
  obtain ⟨displays, -, h⟩ := exists_of_bind_ok h
  obtain ⟨k, hk, h⟩ := exists_of_bind_ok h
  obtain ⟨shape, hextent, h⟩ := exists_of_bind_ok h
  cases h
  refine ⟨?_, rfl⟩
  have hpos : 0 ≤ k := by
    unfold checkExtent at hextent
    dsimp only at hextent
    split at hextent
    · cases hextent
    · rename_i hcount
      simp only [List.any_cons, Bool.or_eq_true, decide_eq_true_eq, not_or, Int.not_lt] at hcount
      exact hcount.1.1
  rw [toCount_of_toLength hk, Int.toNat_of_nonneg hpos]

theorem Fields.ahead_prepare {fields : Fields} {evaluator : Evaluator} {x0 lower upper : List Float}
    {watched : Bool} {cancel : Cancellation} {memory left : σ} {q : Prepared σ}
    (h : fields.prepare v evaluator x0 lower upper watched cancel memory = (left, .ok q)) :
    ∃ capacity : Nat, q.problem.settings.iterationLimit = capacity ∧ q.state.Ahead capacity 0 := by
  unfold Fields.prepare BoxMin.prepare at h
  split at h
  · cases h
  · split at h
    · cases h
    · split at h
      · cases h
      · cases h
      · rename_i record _ hrecord
        obtain ⟨hcount, hrows⟩ := History.ofValues_ok (orFault_eq_ok.mp hrecord)
        cases h
        refine ⟨record.capacity, ?_, ?_⟩
        · simp only [Fields.settings, hcount, Except.toOption, Option.getD_some]
        · exact ⟨by simp [RunState.initial, History.size, hrows],
            by simp [RunState.initial, History.size, hrows], rfl⟩

/-- However often a run goes on where the last one ended, and however each of them ends, the count of
iterates is ahead of the record by the runs so far that lost one; so the two agree exactly as long
as none has, and a result then counts its rows. -/
theorem count_ahead_by_lost {fields : Fields} {evaluator : Evaluator} {x0 lower upper : List Float}
    {watched : Bool} {cancel : Cancellation} {memory left : σ} {q w : Prepared σ}
    {changes : List (Cancellation → Cancellation)} {answer : Except Error Result}
    (h : fields.prepare v evaluator x0 lower upper watched cancel memory = (left, .ok q))
    (hlast : (q.runAll c v changes).getLast? = some (answer, w)) :
    w.state.outer = w.state.history.size + q.lost c v changes ∧
      (w.state.outer = w.state.history.size ↔ q.lost c v changes = 0) ∧
      ∀ r, answer = .ok r →
        r.nit = r.history.length + q.lost c v changes ∧
        (r.history.length : Int) ≤ q.problem.settings.iterationLimit ∧
        (r.nit = r.history.length ↔ q.lost c v changes = 0) := by
  obtain ⟨capacity, hlimit, hahead⟩ := Fields.ahead_prepare h
  obtain ⟨hw, hresult⟩ := Prepared.ahead_runAll changes q 0 hahead hlast
  have houter := hw.outer
  rw [Nat.zero_add] at houter
  refine ⟨houter, by omega, fun r hr => ?_⟩
  obtain ⟨hnit, hhistory⟩ := hresult r hr
  have hrows := hw.rows
  rw [hhistory, History.length_toList, hlimit]
  exact ⟨by omega, by omega, by omega⟩

end Runs

section Rehearsed

structure Account where
  failed : Option (Callable × Nat)
  outer : Nat
  rows : Nat
  result : Option (Nat × Nat)
  deriving DecidableEq

def accountOf {σ : Type} (run : Except Error Result × Prepared σ) : Account where
  failed := match run.1 with
    | .error (.callbackFailed (.callable f) k (.signal (.failure _))) => some (f, k)
    | _ => none
  outer := run.2.state.outer
  rows := run.2.state.history.size
  result := run.1.toOption.map fun r => (r.nit, r.history.length)

def flaky : Callable := ⟨1, "flaky", false⟩

def flakyDiagnostic : StandIn :=
  .table [{ signal := some (.failure "ValueError") }, { answer := .float 1.0 }]

def flakyFields : Fields := { outputFcn := .tuple [.callable flaky] }

def flakyRun (script : Script Reply) : Memory × Except Error (Prepared Memory) :=
  flakyFields.prepare (script.solver "") (.joint (.callable ⟨0, "f", false⟩)) [0.0] [-4.0] [4.0]
    true {} {}

def stoppingScript : Script Reply :=
  .ofMoves [({ set := some [0.5] }, .requestFG), ({}, .newX), ({}, .convergence)]

/-- The first run fails with its diagnostic; the second returns a result that counts an iterate its
history does not hold. -/
theorem failed_diagnostic_leaves_count_ahead :
    ∃ left q, flakyRun stoppingScript = (left, .ok q) ∧
      (q.runAll (Cast.client ⟨#[.squares, flakyDiagnostic]⟩) (stoppingScript.solver "")
          [id, id]).map accountOf =
        [⟨some (flaky, 1), 1, 0, none⟩, ⟨none, 1, 0, some (1, 0)⟩] := by
  obtain ⟨q, hq, hruns⟩ : ∃ q, (flakyRun stoppingScript).2 = .ok q ∧
      (q.runAll (Cast.client ⟨#[.squares, flakyDiagnostic]⟩) (stoppingScript.solver "")
          [id, id]).map accountOf =
        [⟨some (flaky, 1), 1, 0, none⟩, ⟨none, 1, 0, some (1, 0)⟩] :=
    exists_of_map_toOption (by decide +kernel)
  exact ⟨_, q, Prod.ext rfl hq, hruns⟩

theorem exists_result_of_accounts {σ : Type} {runs : List (Except Error Result × Prepared σ)}
    {failed : Option (Callable × Nat)} {outer rows nit length : Nat}
    (h : (runs.map accountOf).getLast? = some ⟨failed, outer, rows, some (nit, length)⟩) :
    ∃ r w, runs.getLast? = some (.ok r, w) ∧ r.nit = nit := by
  rw [List.getLast?_map] at h
  obtain ⟨⟨answer, w⟩, hlast, haccount⟩ := Option.map_eq_some_iff.mp h
  simp only [accountOf, Account.mk.injEq] at haccount
  obtain ⟨-, -, -, hresult⟩ := haccount
  obtain ⟨r, rfl, hcounts⟩ := exists_of_map_toOption hresult
  exact ⟨r, w, hlast, congrArg Prod.fst hcounts⟩

def longerScript : Script Reply :=
  .ofMoves [({ set := some [0.5] }, .requestFG), ({}, .newX), ({ set := some [0.25] }, .requestFG),
    ({}, .newX), ({}, .convergence)]

def flakyCast : Cast :=
  ⟨#[.table [{ answer := evaluation 0.25 [1.0] }, { signal := some (.failure "KeyError") }],
    flakyDiagnostic]⟩

/-- A run that fails with its diagnostic loses an iterate, one that fails with its evaluator does
not, and the third run counts two iterates and has recorded one. -/
theorem count_ahead_by_lost_after_failures :
    ∃ left q w r, flakyRun longerScript = (left, .ok q) ∧
      (q.runAll flakyCast.client (longerScript.solver "") [id, id, id]).getLast? =
        some (.ok r, w) ∧
      q.lost flakyCast.client (longerScript.solver "") [id, id, id] = 1 ∧
      r.nit = 2 ∧ r.nit = r.history.length + 1 ∧ w.state.outer = w.state.history.size + 1 := by
  obtain ⟨q, hq, hread⟩ : ∃ q, (flakyRun longerScript).2 = .ok q ∧
      ((q.runAll flakyCast.client (longerScript.solver "") [id, id, id]).map accountOf,
          q.lost flakyCast.client (longerScript.solver "") [id, id, id]) =
        ([⟨some (flaky, 1), 1, 0, none⟩, ⟨none, 1, 0, none⟩, ⟨none, 2, 1, some (2, 1)⟩], 1) :=
    exists_of_map_toOption (by decide +kernel)
  simp only [Prod.mk.injEq] at hread
  obtain ⟨hruns, hlost⟩ := hread
  obtain ⟨r, w, hlast, hnit⟩ := exists_result_of_accounts (congrArg List.getLast? hruns)
  have hq : flakyRun longerScript = (_, .ok q) := Prod.ext rfl hq
  obtain ⟨houter, -, hresult⟩ := count_ahead_by_lost hq hlast
  obtain ⟨hrows, -⟩ := hresult r rfl
  rw [hlost] at houter hrows
  exact ⟨_, q, w, r, hq, hlast, hlost, hnit, hrows, houter⟩

end Rehearsed

end BoxMin
