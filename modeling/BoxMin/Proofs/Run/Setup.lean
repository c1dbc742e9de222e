import BoxMin.Proofs.Run.Course
import BoxMin.Rehearsal.Script

set_option autoImplicit false

namespace BoxMin

theorem exists_of_bind_ok {ε α β : Type} {x : Except ε α} {f : α → Except ε β} {b : β}
    (h : x >>= f = .ok b) : ∃ a, x = .ok a ∧ f a = .ok b :=
  match x, h with
  | .ok a, h => ⟨a, rfl, h⟩

theorem exists_of_bind_error {ε α β : Type} {x : Except ε α} {f : α → Except ε β} {e : ε}
    (h : x >>= f = .error e) : x = .error e ∨ ∃ a, x = .ok a ∧ f a = .error e := by
  cases x with
  | error e' =>
    cases h
    exact .inl rfl
  | ok a => exact .inr ⟨a, rfl, h⟩

theorem bind_of_ok {ε α β : Type} {x : Except ε α} {a : α} {f : α → Except ε β} (h : x = .ok a) :
    x >>= f = f a := by
  rw [h]
  rfl

theorem exists_of_map_toOption {ε α β : Type} {x : Except ε α} {f : α → β} {b : β}
    (h : x.toOption.map f = some b) : ∃ a, x = .ok a ∧ f a = b := by
  cases x with
  | error e => cases h
  | ok a => exact ⟨a, rfl, Option.some.inj h⟩

theorem map_eq_error {ε α β : Type} {x : Except ε α} {f : α → β} {e : ε} :
    x.map f = .error e ↔ x = .error e := by
  cases x <;> simp [Except.map]

theorem map_eq_ok_iff {ε α β : Type} {x : Except ε α} {f : α → β} {b : β} :
    x.map f = .ok b ↔ ∃ a, x = .ok a ∧ f a = b := by
  cases x <;> simp [Except.map]

theorem orFault_eq_ok {α : Type} {x : Except Fault α} {a : α} :
    orFault x = .ok a ↔ x = .ok a := by
  cases x <;> simp

theorem orFault_eq_error {α : Type} {x : Except Fault α} {e : Error} :
    orFault x = .error e ↔ ∃ fault, x = .error fault ∧ e = .fault fault := by
  cases x with
  | error fault => simp [eq_comm]
  | ok a => simp

section Options

theorem le_of_wholeOption {key : String} {minimum k : Nat} {v : Value}
    (h : wholeOption key minimum v = .ok k) : minimum ≤ k := by
  unfold wholeOption at h
  extract_lets accept at h
  have haccept (isWhole : Bool) (h : accept isWhole = .ok k) : minimum ≤ k := by
    simp only [accept] at h
    split at h
    · cases h
    · obtain ⟨i, -, h⟩ := exists_of_bind_ok h
      split at h
      · cases h
      · cases h
        omega
  split at h
  · exact haccept false h
  · split at h
    · exact haccept true h
    · split at h
      · obtain ⟨x, -, h⟩ := exists_of_bind_ok h
        exact haccept _ h
      · exact haccept false h

theorem le_of_realOption {key : String} {v : Value} {x : Float}
    (h : realOption key v = .ok x) : 0.0 ≤ x := by
  unfold realOption at h
  split at h
  · cases h
  · split at h
    · cases h
    · obtain ⟨y, -, h⟩ := exists_of_bind_ok h
      split at h
      · cases h
        assumption
      · cases h

theorem checkValues_ok {s : Sparse} {o : Options} (h : checkValues s = .ok o) :
    wholeOption "m" 0 (s.field "m") = .ok o.m ∧
    realOption "factr" (s.field "factr") = .ok o.factr ∧
    realOption "pgtol" (s.field "pgtol") = .ok o.pgtol ∧
    wholeOption "maxIts" 1 (s.field "maxIts") = .ok o.maxIts ∧
    wholeOption "maxTotalIts" 1 (s.field "maxTotalIts") = .ok o.maxTotalIts ∧
    wholeOption "printEvery" 0 (s.field "printEvery") = .ok o.printEvery ∧
    callablesOption "errFcn" (s.field "errFcn") = .ok o.errFcn ∧
    callablesOption "outputFcn" (s.field "outputFcn") = .ok o.outputFcn := by
  unfold checkValues at h
  obtain ⟨m, hm, h⟩ := exists_of_bind_ok h
  obtain ⟨factr, hfactr, h⟩ := exists_of_bind_ok h
  obtain ⟨pgtol, hpgtol, h⟩ := exists_of_bind_ok h
  obtain ⟨maxIts, hmaxIts, h⟩ := exists_of_bind_ok h
  obtain ⟨maxTotalIts, hmaxTotalIts, h⟩ := exists_of_bind_ok h
  obtain ⟨printEvery, hprintEvery, h⟩ := exists_of_bind_ok h
  obtain ⟨errFcn, herrFcn, h⟩ := exists_of_bind_ok h
  obtain ⟨outputFcn, houtputFcn, h⟩ := exists_of_bind_ok h
  cases h
  exact ⟨hm, hfactr, hpgtol, hmaxIts, hmaxTotalIts, hprintEvery, herrFcn, houtputFcn⟩

theorem resolveOptions_ok {n : Value} {opts : Option Value} {o : Options} {x0 : Value}
    (h : resolveOptions n opts = .ok (o, x0)) :
    ∃ s, Sparse.ofValue (opts.getD .nothing) = .ok s ∧ checkKeys s = .ok () ∧
      startingPoint n s = .ok x0 ∧ checkValues s = .ok o := by
  unfold resolveOptions at h
  obtain ⟨s, hs, h⟩ := exists_of_bind_ok h
  obtain ⟨⟨⟩, hkeys, h⟩ := exists_of_bind_ok h
  obtain ⟨x, hx, h⟩ := exists_of_bind_ok h
  obtain ⟨o', hvalues, h⟩ := exists_of_bind_ok h
  cases h
  exact ⟨s, orFault_eq_ok.mp hs, hkeys, hx, hvalues⟩

theorem length_of_boundVectors {lower upper : Value} {lo hi : List Float}
    (h : boundVectors lower upper = .ok (lo, hi)) : lo.length = hi.length := by
  unfold boundVectors at h
  obtain ⟨lo', -, h⟩ := exists_of_bind_ok h
  obtain ⟨hi', -, h⟩ := exists_of_bind_ok h
  split at h
  · cases h
    assumption
  · cases h

theorem length_of_startVector {start : Value} {lo x : List Float}
    (h : startVector start lo = .ok x) : x.length = lo.length := by
  unfold startVector at h
  obtain ⟨x', -, h⟩ := exists_of_bind_ok h
  split at h
  · cases h
    assumption
  · cases h

theorem checkArguments_ok {fcn lower upper : Value} {opts : Option Value} {a : Checked}
    (h : checkArguments fcn lower upper opts = .ok a) :
    ∃ x0, Evaluator.ofValue fcn = .ok a.evaluator ∧
      boundVectors lower upper = .ok (a.lower, a.upper) ∧
      resolveOptions (.int a.lower.length) opts = .ok (a.options, x0) ∧
      startVector x0 a.lower = .ok a.x0 ∧ checkBounds a.lower a.upper = .ok () := by
  unfold checkArguments at h
  obtain ⟨evaluator, hevaluator, h⟩ := exists_of_bind_ok h
  obtain ⟨⟨lo, hi⟩, hbounds, h⟩ := exists_of_bind_ok h
  obtain ⟨⟨options, x0⟩, hoptions, h⟩ := exists_of_bind_ok h
  obtain ⟨x, hx, h⟩ := exists_of_bind_ok h
  obtain ⟨⟨⟩, hcrossed, h⟩ := exists_of_bind_ok h
  cases h
  exact ⟨x0, hevaluator, hbounds, hoptions, hx, hcrossed⟩

theorem limits_of_checkArguments {fcn lower upper : Value} {opts : Option Value} {a : Checked}
    (h : checkArguments fcn lower upper opts = .ok a) :
    1 ≤ a.options.maxIts ∧ 1 ≤ a.options.maxTotalIts := by
  obtain ⟨x0, -, -, hoptions, -, -⟩ := checkArguments_ok h
  obtain ⟨s, -, -, -, hvalues⟩ := resolveOptions_ok hoptions
  obtain ⟨-, -, -, hmaxIts, hmaxTotalIts, -⟩ := checkValues_ok hvalues
  exact ⟨le_of_wholeOption hmaxIts, le_of_wholeOption hmaxTotalIts⟩

theorem Options.history_ok {o : Options} {h : History} (hh : o.history = .ok h) :
    h = { capacity := o.maxIts, outputs := o.outputFcn.map .callable,
          displays := o.errFcn.map .callable } := by
  have hh := orFault_eq_ok.mp hh
  unfold History.ofValues at hh
  obtain ⟨outputs, houtputs, hh⟩ := exists_of_bind_ok hh
  obtain ⟨displays, hdisplays, hh⟩ := exists_of_bind_ok hh
  obtain ⟨k, hk, hh⟩ := exists_of_bind_ok hh
  obtain ⟨shape, -, hh⟩ := exists_of_bind_ok hh
  obtain ⟨i, hi, hk⟩ := exists_of_bind_ok hk
  cases houtputs
  cases hdisplays
  cases hi
  split at hk
  · cases hk
    cases hh
    rfl
  · cases hk

end Options

variable {σ : Type}

namespace RunState

variable {n : Nat}

def opened (p : Problem) (s : RunState σ n) : RunState σ n :=
  s.log Level.debug (startLine n p.settings)

def runTurns (c : Client σ) (v : Solver σ) (p : Problem) (s : RunState σ n) :
    List (RunState σ n) :=
  match p.settings.callLimit with
  | .error _ => []
  | .ok limit => turns c v p (limit.room s.total) (s.opened p)

/-- Nothing has been called yet, and the record has a row for each iterate allowed. -/
structure Fresh (o : Options) (s : RunState σ n) : Prop where
  f : s.f = 0.0
  g : s.g = .replicate n 0.0
  outer : s.outer = 0
  total : s.total = 0
  declared : s.declared = none
  history : s.history = { capacity := o.maxIts, outputs := o.outputFcn.map .callable,
                          displays := o.errFcn.map .callable }

theorem drive_of_limit {c : Client σ} {v : Solver σ} {p : Problem} {s : RunState σ n}
    {limit : Number} (hlimit : p.settings.callLimit = .ok limit) :
    s.drive c v p = (s.opened p).loop c v p limit.wholePart (limit.room s.total) := by
  have htotal : (s.opened p).total = s.total := rfl
  unfold drive
  simp only [hlimit]
  rw [← opened, htotal]

theorem drive_eq {c : Client σ} {v : Solver σ} {p : Problem} {s : RunState σ n} {k : Nat}
    (hlimit : p.settings.callLimit = .ok (.whole k)) (htotal : s.total = 0) :
    s.drive c v p = (s.opened p).loop c v p k k := by
  have hroom : ((k : Int) - s.total).toNat = k := by omega
  rw [drive_of_limit hlimit, Number.wholePart_whole, Number.room_whole, hroom]

theorem result_eq_ok {v : Solver σ} {s : RunState σ n} {status : Status} {r : Result}
    (h : s.result v status = .ok r) :
    ∃ text, v.message s.workspace s.shared.memory = .ok text ∧ r = s.summary status text := by
  obtain ⟨text, htext, hr⟩ := map_eq_ok_iff.mp h
  exact ⟨text, htext, hr.symm⟩

end RunState

def Prepared.turns (q : Prepared σ) (c : Client σ) (v : Solver σ) : List (RunState σ q.n) :=
  q.state.runTurns c v q.problem

def Prepared.opened (q : Prepared σ) : RunState σ q.n := q.state.opened q.problem

/-- These arguments of `minimize` pass the checks as `a`, and `q` is the run set up for them. -/
structure Starts (v : Solver σ) (fcn lower upper : Value) (opts : Option Value) (watched : Bool)
    (cancel : Cancellation) (memory : σ) (a : Checked) (q : Prepared σ) : Prop where
  checked : checkArguments fcn lower upper opts = .ok a
  prepared : (a.prepare v watched cancel memory).2 = .ok q

namespace Starts

variable {v : Solver σ} {fcn lower upper : Value} {opts : Option Value} {watched : Bool}
  {cancel : Cancellation} {memory : σ} {a : Checked} {q : Prepared σ}

theorem fresh (h : Starts v fcn lower upper opts watched cancel memory a q) :
    q.opened.Fresh a.options ∧ q.problem.settings = a.options.settings ∧
      q.problem.evaluator = a.evaluator ∧ q.problem.watched = watched := by
  have hq := h.prepared
  unfold Checked.prepare prepare at hq
  split at hq
  · cases hq
  · split at hq
    · cases hq
    · cases hq
    · rename_i history _ hhistory
      have hrecord := Options.history_ok hhistory
      cases hq
      exact ⟨⟨rfl, rfl, rfl, rfl, rfl, hrecord⟩, rfl, rfl, rfl⟩

theorem arguments (h : Starts v fcn lower upper opts watched cancel memory a q) :
    q.n = a.x0.length ∧ q.problem.lower = solverBounds a.lower ∧
      q.problem.upper = solverBounds a.upper ∧
      encodeBounds a.lower a.upper = .ok q.problem.kinds ∧
      (v.allocate a.x0.length (a.options.m : Int) memory).2 = .ok q.opened.workspace := by
  have hq := h.prepared
  unfold Checked.prepare prepare at hq
  split at hq
  · cases hq
  · rename_i left workspace hworkspace
    split at hq
    · cases hq
    · cases hq
    · rename_i kinds history hkinds hhistory
      cases hq
      exact ⟨List.size_toArray, rfl, rfl, hkinds, by rw [hworkspace]; rfl⟩

theorem vectors (h : Starts v fcn lower upper opts watched cancel memory a q) :
    a.lower.length = q.n ∧ a.upper.length = q.n ∧ checkBounds a.lower a.upper = .ok () := by
  obtain ⟨hn, -⟩ := h.arguments
  obtain ⟨x0, -, hbounds, -, hstart, hcrossed⟩ := checkArguments_ok h.checked
  have hlower := length_of_startVector hstart
  have hupper := length_of_boundVectors hbounds
  exact ⟨by omega, by omega, hcrossed⟩

theorem tolerances (h : Starts v fcn lower upper opts watched cancel memory a q) :
    0.0 ≤ a.options.factr ∧ 0.0 ≤ a.options.pgtol := by
  obtain ⟨x0, -, -, hoptions, -, -⟩ := checkArguments_ok h.checked
  obtain ⟨s, -, -, -, hvalues⟩ := resolveOptions_ok hoptions
  obtain ⟨-, hfactr, hpgtol, -⟩ := checkValues_ok hvalues
  exact ⟨le_of_realOption hfactr, le_of_realOption hpgtol⟩

theorem limits_pos (h : Starts v fcn lower upper opts watched cancel memory a q) :
    1 ≤ a.options.maxIts ∧ 1 ≤ a.options.maxTotalIts :=
  limits_of_checkArguments h.checked

theorem turns_eq (h : Starts v fcn lower upper opts watched cancel memory a q) (c : Client σ) :
    q.turns c v = q.opened.turns c v q.problem a.options.maxTotalIts := by
  obtain ⟨hfresh, hsettings, -, -⟩ := h.fresh
  have htotal : q.state.total = 0 := hfresh.total
  unfold Prepared.turns RunState.runTurns
  simp [hsettings, Options.settings, htotal, Prepared.opened]

theorem iterationLimit (h : Starts v fcn lower upper opts watched cancel memory a q) :
    q.problem.settings.iterationLimit = a.options.maxIts := by
  obtain ⟨-, hsettings, -, -⟩ := h.fresh
  rw [hsettings]
  rfl

theorem course (h : Starts v fcn lower upper opts watched cancel memory a q) {c : Client σ}
    {past rest : List (RunState σ q.n)} {s : RunState σ q.n}
    (hturns : q.turns c v = past ++ s :: rest) :
    RunState.Course c v q.problem q.opened past s ∧ past.length < a.options.maxTotalIts := by
  rw [h.turns_eq] at hturns
  exact RunState.course_of_turns hturns

theorem drive_eq (h : Starts v fcn lower upper opts watched cancel memory a q) (c : Client σ) :
    q.state.drive c v q.problem =
      q.opened.loop c v q.problem a.options.maxTotalIts a.options.maxTotalIts := by
  obtain ⟨hfresh, hsettings, -, -⟩ := h.fresh
  have htotal : q.state.total = 0 := hfresh.total
  exact RunState.drive_eq (by rw [hsettings]; rfl) htotal

theorem finish (h : Starts v fcn lower upper opts watched cancel memory a q) (c : Client σ) :
    ∃ w r, RunState.Finish c v q.problem a.options.maxTotalIts a.options.maxTotalIts q.opened
        (q.turns c v) w r ∧ q.state.drive c v q.problem = (w, r) ∧
      minimize c v fcn lower upper opts watched cancel memory =
        ({ q with state := w } : Prepared σ).outcome (r.bind (w.result v)) := by
  have hfinish : RunState.Finish c v q.problem a.options.maxTotalIts a.options.maxTotalIts q.opened
      (q.opened.turns c v q.problem a.options.maxTotalIts) _ _ :=
    RunState.loop_finish a.options.maxTotalIts q.opened
  rw [← h.turns_eq c, ← h.drive_eq c] at hfinish
  refine ⟨_, _, hfinish, rfl, ?_⟩
  have hprepared := h.prepared
  obtain ⟨left, hprepare⟩ : ∃ left, a.prepare v watched cancel memory = (left, .ok q) :=
    ⟨_, Prod.ext rfl hprepared⟩
  unfold minimize
  rw [h.checked]
  simp only [hprepare]
  rfl

/-- Every result comes from a run that was set up, took its turns and ended with a status. -/
theorem of_answer {c : Client σ} {r : Result}
    (hr : (minimize c v fcn lower upper opts watched cancel memory).answer = .ok r) :
    ∃ a q, Starts v fcn lower upper opts watched cancel memory a q := by
  cases hchecked : checkArguments fcn lower upper opts with
  | error e => simp [minimize, hchecked] at hr
  | ok a =>
    rcases hprepare : a.prepare v watched cancel memory with ⟨left, e | q⟩
    · simp [minimize, hchecked, hprepare] at hr
    · exact ⟨a, q, hchecked, by rw [hprepare]⟩

theorem of_test {test : Checked → Prepared σ → Bool}
    (h : ((checkArguments fcn lower upper opts).toOption.bind fun a =>
      (a.prepare v watched cancel memory).2.toOption.map (test a)) = some true) :
    ∃ a q, Starts v fcn lower upper opts watched cancel memory a q ∧ test a q = true := by
  obtain ⟨a, hchecked, hq⟩ := Option.bind_eq_some_iff.mp h
  obtain ⟨q, hprepared, htest⟩ := exists_of_map_toOption hq
  obtain ⟨a', ha, rfl⟩ := exists_of_map_toOption (f := id) (by simpa using hchecked)
  exact ⟨a', q, ⟨ha, hprepared⟩, htest⟩

theorem result (h : Starts v fcn lower upper opts watched cancel memory a q) {c : Client σ}
    {r : Result}
    (hr : (minimize c v fcn lower upper opts watched cancel memory).answer = .ok r) :
    ∃ w status text, RunState.Finish c v q.problem a.options.maxTotalIts a.options.maxTotalIts
        q.opened (q.turns c v) w (.ok status) ∧
      v.message w.workspace w.shared.memory = .ok text ∧ r = w.summary status text ∧
      minimize c v fcn lower upper opts watched cancel memory =
        ({ q with state := w } : Prepared σ).outcome (.ok r) := by
  obtain ⟨w, ending, hfinish, -, hm⟩ := h.finish c
  rw [hm] at hr ⊢
  cases ending with
  | error e => cases hr
  | ok status =>
    have hresult : w.result v status = .ok r := hr
    obtain ⟨text, htext, hsummary⟩ := RunState.result_eq_ok hresult
    refine ⟨w, status, text, hfinish, htext, hsummary, ?_⟩
    exact congrArg _ hresult

end Starts

namespace Checked

variable {a : Checked} {watched : Bool} {cancel : Cancellation} {w : Workspace} {record : History}
  {memory : σ}

def problem (a : Checked) (watched : Bool) : Problem where
  evaluator := a.evaluator
  settings := a.options.settings
  lower := solverBounds a.lower
  upper := solverBounds a.upper
  kinds := (a.lower.zip a.upper).map fun (l, u) => .ofBounds l u
  watched := watched

def opened (a : Checked) (watched : Bool) (cancel : Cancellation) (w : Workspace)
    (record : History) (memory : σ) : RunState σ a.x0.toArray.size :=
  (RunState.initial a.x0.toArray.toVector w record cancel memory).opened (a.problem watched)

theorem opened_fresh (h : a.options.history = .ok record) :
    (a.opened watched cancel w record memory).Fresh a.options :=
  ⟨rfl, rfl, rfl, rfl, rfl, Options.history_ok h⟩

end Checked

def Outcome.refused (e : Error) (cancel : Cancellation) (memory : σ) : Outcome σ where
  answer := .error e
  cancel := cancel
  memory := memory

def RunState.outcome {n : Nat} (v : Solver σ) (last : RunState σ n × Except Error Status) :
    Outcome σ where
  answer := last.2.bind (last.1.result v)
  cancel := last.1.shared.cancel
  memory := last.1.shared.memory
  printed := last.1.printed.toList
  logged := last.1.logged.toList

section Minimize

variable {c : Client σ} {v : Solver σ} {fcn lower upper : Value} {opts : Option Value}
  {watched : Bool} {cancel : Cancellation} {memory left : σ} {a : Checked} {w : Workspace}
  {record : History} {e : Error}

theorem minimize_of_unchecked (h : checkArguments fcn lower upper opts = .error e) :
    minimize c v fcn lower upper opts watched cancel memory = .refused e cancel memory := by
  simp only [minimize, h, Outcome.refused]

theorem minimize_of_unallocated (h : checkArguments fcn lower upper opts = .ok a)
    (hw : v.allocate a.x0.length (a.options.m : Int) memory = (left, .error e)) :
    minimize c v fcn lower upper opts watched cancel memory = .refused e cancel left := by
  simp only [minimize, h, Checked.prepare, prepare, hw, Outcome.refused]

theorem encodeBounds_checked (h : checkArguments fcn lower upper opts = .ok a) :
    encodeBounds a.lower a.upper = .ok ((a.lower.zip a.upper).map fun (l, u) => .ofBounds l u) := by
  obtain ⟨x0, -, hbounds, -, -, -⟩ := checkArguments_ok h
  rw [encodeBounds, pairUp?_of_length_eq (length_of_boundVectors hbounds)]

theorem minimize_of_unrecorded (h : checkArguments fcn lower upper opts = .ok a)
    (hw : v.allocate a.x0.length (a.options.m : Int) memory = (left, .ok w))
    (hrecord : a.options.history = .error e) :
    minimize c v fcn lower upper opts watched cancel memory = .refused e cancel left := by
  simp only [minimize, h, Checked.prepare, prepare, hw, hrecord, encodeBounds_checked h,
    Outcome.refused]

theorem Checked.drive_eq (a : Checked) :
    (RunState.initial a.x0.toArray.toVector w record cancel left).drive c v (a.problem watched) =
      RunState.loop c v (a.problem watched) a.options.maxTotalIts a.options.maxTotalIts
        (a.opened watched cancel w record left) :=
  RunState.drive_eq rfl rfl

theorem minimize_eq_loop (h : checkArguments fcn lower upper opts = .ok a)
    (hw : v.allocate a.x0.length (a.options.m : Int) memory = (left, .ok w))
    (hrecord : a.options.history = .ok record) :
    minimize c v fcn lower upper opts watched cancel memory =
      RunState.outcome v (RunState.loop c v (a.problem watched) a.options.maxTotalIts
        a.options.maxTotalIts (a.opened watched cancel w record left)) := by
  rw [← a.drive_eq]
  simp only [minimize, h, Checked.prepare, prepare, hw, hrecord, encodeBounds_checked h]
  rfl

theorem Starts.of_set_up (h : checkArguments fcn lower upper opts = .ok a)
    (hw : v.allocate a.x0.length (a.options.m : Int) memory = (left, .ok w))
    (hrecord : a.options.history = .ok record) :
    Starts v fcn lower upper opts watched cancel memory a
      ⟨a.x0.toArray.size, a.problem watched,
        .initial a.x0.toArray.toVector w record cancel left⟩ where
  checked := h
  prepared := by
    simp only [Checked.prepare, prepare, hw, hrecord, encodeBounds_checked h]
    rfl

theorem Starts.set_up {q : Prepared σ}
    (h : Starts v fcn lower upper opts watched cancel memory a q) :
    ∃ left w record, v.allocate a.x0.length (a.options.m : Int) memory = (left, .ok w) ∧
      a.options.history = .ok record ∧
      q = ⟨a.x0.toArray.size, a.problem watched,
        .initial a.x0.toArray.toVector w record cancel left⟩ := by
  have hq := h.prepared
  unfold Checked.prepare prepare at hq
  rcases hw : v.allocate a.x0.length (a.options.m : Int) memory with ⟨left, e | w⟩
  · simp only [hw] at hq
    cases hq
  · cases hrecord : a.options.history with
    | error e =>
      simp only [hw, hrecord, encodeBounds_checked h.checked] at hq
      cases hq
    | ok record =>
      simp only [hw, hrecord, encodeBounds_checked h.checked] at hq
      cases hq
      exact ⟨left, w, record, rfl, rfl, rfl⟩

end Minimize

section Rehearsed

def Script.ofMoves (moves : List (Move × Task)) : Script Reply where
  entries := (moves.map fun (m, t) => (m, ⟨t, t.word⟩)).toArray
  after := ({}, ⟨.stop, Task.stop.word⟩)

def rehearse (cast : Cast) (script : Script Reply) (opts : Value) : Outcome Memory :=
  minimize cast.client (script.solver "") (.callable ⟨0, "f", false⟩) (.list [.float (-4.0)])
    (.list [.float 4.0]) (some opts) true {} {}

abbrev Rehearses (script : Script Reply) (opts : Value) (a : Checked) (q : Prepared Memory) : Prop :=
  Starts (script.solver "") (.callable ⟨0, "f", false⟩) (.list [.float (-4.0)])
    (.list [.float 4.0]) (some opts) true {} {} a q

end Rehearsed

end BoxMin
