import BoxMin.Proofs.Rehearsal
import BoxMin.Proofs.Run.Counting
import BoxMin.Proofs.Run.Simulation

/-!
Diagnostics and progress lines change nothing. A diagnostic that only looks leaves alone what solver
and evaluator see, so a run makes the same exchanges with both whichever diagnostics it calls and
whichever lines it prints.
-/

set_option autoImplicit false

namespace BoxMin

variable {σ τ : Type} {n : Nat} {c : Client σ} {v : Solver σ} {π : σ → τ}

/-- What a run says to the solver, and the points at which it evaluates. -/
inductive Exchange where
  | step (query : Query) (x g : List Float) (workspace : Workspace)
  | evaluate (x : List Float)

def RunState.exchanges (v : Solver σ) (p : Problem) (s : RunState σ n) : List Exchange :=
  .step (s.query p) s.shared.x.toList s.g.toList s.workspace ::
    match s.callSolver v p with
    | (t, .ok ()) => if t.task = .requestFG then [.evaluate t.shared.x.toList] else []
    | (_, .error _) => []

def Prepared.exchanges (q : Prepared σ) (c : Client σ) (v : Solver σ) : List Exchange :=
  (q.turns c v).flatMap (RunState.exchanges v q.problem)

def Result.core (r : Result) : Result :=
  { r with history := r.history.map (·.take 2), width := 2 }

def Checked.observedBy (a : Checked) (every : Nat) (shown recorded : List Callable) : Checked :=
  { a with
    options := { a.options with printEvery := every, errFcn := shown, outputFcn := recorded } }

abbrev SameView (π : σ → τ) (a b : σ) : Prop := π a = π b

/-- The callable answers with a double, and moves neither the point nor the cancellation nor what
can be seen of the memory through `π`. -/
def Client.OnlyLooks (c : Client σ) (π : σ → τ) (f : Callable) : Prop :=
  ∀ {n : Nat} (a : Shared σ n), ∃ memory value y,
    c.call f a = ({ a with memory }, .ok value) ∧ value.toFloat = .ok y ∧ π memory = π a.memory

theorem diagnose_looks {fs : List Callable} (hfs : ∀ f ∈ fs, c.OnlyLooks π f) (i : Nat)
    (a : Shared σ n) :
    ∃ memory ys, c.diagnose i (fs.map .callable) a = ({ a with memory }, .ok ys) ∧
      π memory = π a.memory := by
  induction fs generalizing a with
  | nil => exact ⟨a.memory, [], rfl, rfl⟩
  | cons f fs ih =>
    obtain ⟨m, value, y, hcall, hy, hm⟩ := hfs f List.mem_cons_self a
    obtain ⟨m', ys, hrest, hm'⟩ :=
      ih (fun g hg => hfs g (List.mem_cons_of_mem _ hg)) { a with memory := m }
    refine ⟨m', y :: ys, ?_, hm'.trans hm⟩
    simp only [List.map_cons, Client.diagnose, Client.callValue, hcall, hy, hrest]

namespace RunState

variable {p : Problem} {s t u w : RunState σ n} {o : Options}

/-- The records agree in their first two columns; what is printed may differ. -/
def TwoColumns (b b' : Books) : Prop :=
  b'.1.toList.map (·.take 2) = b.1.toList.map (·.take 2)

structure Ready (c : Client σ) (π : σ → τ) (p : Problem) (h : History) : Prop where
  cadence : ∃ every : Nat, p.settings.cadence = .ok (.whole every)
  shown : ∃ fs : List Callable, h.displays = fs.map .callable ∧ ∀ f ∈ fs, c.OnlyLooks π f
  recorded : ∃ fs : List Callable, h.outputs = fs.map .callable ∧ ∀ f ∈ fs, c.OnlyLooks π f
  room : h.size < h.capacity

theorem display_looks (h : Ready c π p u.history) :
    ∃ memory printed, u.display c p =
        ({ u with shared := { u.shared with memory }, printed }, .ok ()) ∧
      π memory = π u.shared.memory := by
  obtain ⟨every, hcadence⟩ := h.cadence
  obtain ⟨fs, hdisplays, hfs⟩ := h.shown
  obtain ⟨memory, ys, hcalls, hm⟩ := diagnose_looks hfs (u.history.size + 1) u.shared
  have hdue : u.lineDue p = .ok (decide ((0 : Int) < every) && (u.outer : Int) % every == 0) := by
    simp only [lineDue, hcadence, Number.due_whole, orFault_ok]
  unfold display History.displayValues
  rw [hdue, hdisplays, hcalls]
  cases decide ((0 : Int) < every) && (u.outer : Int) % every == 0 with
  | false => exact ⟨u.shared.memory, u.printed, rfl, rfl⟩
  | true => exact ⟨memory, _, rfl, hm⟩

theorem record_looks (h : Ready c π p u.history) :
    ∃ memory extras, u.record c =
        ({ u with
            shared := { u.shared with memory }
            history := { u.history with
              rows := u.history.rows.push (u.f :: infNorm u.g.toList :: extras) } }, .ok ()) ∧
      π memory = π u.shared.memory := by
  obtain ⟨fs, houtputs, hfs⟩ := h.recorded
  obtain ⟨memory, ys, hcalls, hm⟩ := diagnose_looks hfs (u.history.size + 1) u.shared
  rw [← houtputs] at hcalls
  have hwidth : (u.f :: infNorm u.g.toList :: ys).length = u.history.width := by
    have hlength := c.diagnose_length _ _ _ _ _ hcalls
    simp only [List.length_cons, History.width]
    omega
  refine ⟨memory, ys, ?_, hm⟩
  rw [record_of_ok hcalls, History.push_eq_ok_iff.mpr ⟨h.room, hwidth, rfl⟩]

theorem note_looks (h : Ready c π p u.history) :
    ∃ memory extras printed, u.note c p =
        ({ u with
            shared := { u.shared with memory }
            outer := u.outer + 1
            history := { u.history with
              rows := u.history.rows.push (u.f :: infNorm u.g.toList :: extras) }
            printed }, .ok ()) ∧
      π memory = π u.shared.memory := by
  obtain ⟨shown, printed, hdisplay, hm⟩ := display_looks (u := { u with outer := u.outer + 1 }) h
  obtain ⟨memory, extras, hrecord, hm'⟩ := record_looks
    (u := { u with shared := { u.shared with memory := shown }, outer := u.outer + 1, printed }) h
  refine ⟨memory, extras, printed, ?_, hm'.trans hm⟩
  unfold note
  rw [hdisplay]
  exact hrecord

theorem note_observed {d : Except Fault Number} (hfirst : Ready c π p u.history)
    (hsecond : Ready c π (p.withCadence d) w.history)
    (h : Like (SameView π) Eq TwoColumns u w) :
    Matches (SameView π) Eq TwoColumns (u.note c p) (w.note c (p.withCadence d)) := by
  obtain ⟨m, _, b, rfl, hm, rfl, hrows⟩ := h
  obtain ⟨m₁, extras₁, q₁, hu, hm₁⟩ := note_looks hfirst
  obtain ⟨m₂, extras₂, q₂, hw, hm₂⟩ := note_looks hsecond
  refine ⟨_, _, _, hu, hw, m₂, _, (_, q₂), rfl, hm₁.trans (hm.trans hm₂.symm), rfl, ?_⟩
  -- both rows begin with f and the largest magnitude in g
  have hhistory : (u.holding m (u.workspace, u.message) b).history = b.1 := rfl
  simp only [TwoColumns, History.toList, Array.toList_push, List.map_append, hhistory] at hrows ⊢
  rw [hrows]
  rfl

theorem Tally.ready {past : List (RunState σ n)} (h : Tally v p o past s)
    (hcadence : p.settings.cadence = .ok (.whole o.printEvery)) (hroom : s.outer < o.maxIts)
    (hdiagnostics : ∀ f ∈ o.errFcn ++ o.outputFcn, c.OnlyLooks π f) : Ready c π p s.history where
  cadence := ⟨o.printEvery, hcadence⟩
  shown := ⟨o.errFcn, h.displays, fun f hf => hdiagnostics f (List.mem_append_left _ hf)⟩
  recorded := ⟨o.outputFcn, h.outputs, fun f hf => hdiagnostics f (List.mem_append_right _ hf)⟩
  room := by rw [h.rows, h.capacity]; exact hroom

def Counted (v : Solver σ) (p : Problem) (o : Options) (s : RunState σ n) : Prop :=
  ∃ past, Tally v p o past s ∧ s.outer < o.maxIts

theorem Counted.next (h : Counted v p o s) (hlimit : p.settings.iterationLimit = o.maxIts)
    (ha : s.advance c v p = (u, .running)) : Counted v p o u := by
  obtain ⟨past, htally, hroom⟩ := h
  exact ⟨past ++ [s], tally_invariant.advance htally ha (by simp), htally.room hroom hlimit ha⟩

theorem observed_lockstep {d : Except Fault Number} (o₁ o₂ : Options)
    (hv : v.Simulates (SameView π) v)
    (he : ∀ g, .callable g ∈ p.evaluator.parts → c.Simulates (SameView π) c g)
    (hcadence₁ : p.settings.cadence = .ok (.whole o₁.printEvery))
    (hcadence₂ : d = .ok (.whole o₂.printEvery))
    (hlimit₁ : p.settings.iterationLimit = o₁.maxIts)
    (hlimit₂ : p.settings.iterationLimit = o₂.maxIts)
    (hd₁ : ∀ f ∈ o₁.errFcn ++ o₁.outputFcn, c.OnlyLooks π f)
    (hd₂ : ∀ f ∈ o₂.errFcn ++ o₂.outputFcn, c.OnlyLooks π f) :
    Lockstep (n := n) c c v v p (p.withCadence d)
      (fun s t => Like (SameView π) Eq TwoColumns s t ∧ Counted v p o₁ s ∧
        Counted v (p.withCadence d) o₂ t)
      (Like (SameView π) Eq TwoColumns) where
  turn := by
    rintro s t ⟨hlike, hs, ht⟩
    -- both records have room for the row, so noting an iterate fails in neither run
    obtain ⟨past, htally, hroom⟩ := hs
    obtain ⟨past', htally', hroom'⟩ := ht
    have hfirst := htally.ready hcadence₁ hroom hd₁
    have hsecond := htally'.ready hcadence₂ hroom' hd₂
    obtain ⟨s', t', r, hs', ht', hlike'⟩ := advance_matches (d := d) hv he hlike
      fun u w huw hu hw => note_observed (hu ▸ hfirst) (hw ▸ hsecond) huw
    refine ⟨s', t', r, hs', ht', hlike', ?_⟩
    rintro rfl
    exact ⟨hlike', Counted.next ⟨past, htally, hroom⟩ hlimit₁ hs',
      Counted.next ⟨past', htally', hroom'⟩ hlimit₂ ht'⟩
  exhausted := by
    rintro s _ level message ⟨⟨m, a, b, rfl, hm, ha, hb⟩, -, -⟩
    exact ⟨m, a, b, rfl, hm, ha, hb⟩

theorem exchanges_like {d : Except Fault Number} (hv : v.Simulates (SameView π) v)
    (h : Like (SameView π) Eq TwoColumns s t) :
    t.exchanges v (p.withCadence d) = s.exchanges v p := by
  obtain ⟨u, w, r, hu, hw, m', a', b', rfl, -, -, -⟩ := callSolver_matches (p := p) hv h
  have hw : t.callSolver v (p.withCadence d) = _ := hw
  obtain ⟨m, _, b, rfl, -, rfl, -⟩ := h
  unfold exchanges
  rw [hu, hw]
  cases r <;> rfl

theorem core_outcome_like (hv : v.Simulates (SameView π) v)
    (h : Like (SameView π) Eq TwoColumns s t) (r : Except Error Status) :
    (outcome v (t, r)).answer.map Result.core = (outcome v (s, r)).answer.map Result.core := by
  obtain ⟨m, _, b, rfl, hm, rfl, hrows⟩ := h
  cases r with
  | error e => rfl
  | ok status =>
    have hsaid : v.message s.workspace m = v.message s.workspace s.shared.memory :=
      hv.message _ _ _ hm
    have hcore (text : String) :
        ((s.holding m (s.workspace, s.message) b).summary status text).core =
          (s.summary status text).core := by
      unfold TwoColumns at hrows
      simp only [Result.core, summary, holding]
      rw [hrows]
      rfl
    have hfirst : (outcome v (s, .ok status)).answer =
        (v.message s.workspace s.shared.memory).map (s.summary status) := rfl
    have hsecond : (outcome v (s.holding m (s.workspace, s.message) b, .ok status)).answer =
        (v.message s.workspace m).map
          ((s.holding m (s.workspace, s.message) b).summary status) := rfl
    rw [hfirst, hsecond, hsaid]
    cases v.message s.workspace s.shared.memory with
    | error e => rfl
    | ok text => exact congrArg Except.ok (hcore text)

end RunState

/-- Two runs that differ in their diagnostics and progress lines alone make the same exchanges and
end in the same result, up to the columns of the diagnostics. -/
theorem diagnostics_only_observe {fcn lower upper : Value} {opts₁ opts₂ : Option Value}
    {watched : Bool} {cancel : Cancellation} {memory : σ} {a : Checked} {every : Nat}
    {shown recorded : List Callable} {q₁ q₂ : Prepared σ}
    (h₁ : Starts v fcn lower upper opts₁ watched cancel memory a q₁)
    (h₂ : Starts v fcn lower upper opts₂ watched cancel memory
      (a.observedBy every shown recorded) q₂)
    (hv : v.Simulates (SameView π) v)
    (he : ∀ g, .callable g ∈ a.evaluator.parts → c.Simulates (SameView π) c g)
    (hd₁ : ∀ f ∈ a.options.errFcn ++ a.options.outputFcn, c.OnlyLooks π f)
    (hd₂ : ∀ f ∈ shown ++ recorded, c.OnlyLooks π f) :
    q₂.exchanges c v = q₁.exchanges c v ∧
      (minimize c v fcn lower upper opts₂ watched cancel memory).answer.map Result.core =
        (minimize c v fcn lower upper opts₁ watched cancel memory).answer.map Result.core := by
  obtain ⟨left, w, record₁, hw, hrecord₁, rfl⟩ := h₁.set_up
  obtain ⟨left', w', record₂, hw', hrecord₂, rfl⟩ := h₂.set_up
  -- what is allocated depends on no observer
  have hallocated : v.allocate a.x0.length (a.options.m : Int) memory = (left', .ok w') := hw'
  rw [hw] at hallocated
  cases hallocated
  have hlockstep := RunState.observed_lockstep (n := a.x0.toArray.size) (p := a.problem watched)
    a.options (a.observedBy every shown recorded).options hv he rfl rfl rfl rfl hd₁ hd₂
  have hlike : RunState.Like (SameView π) Eq RunState.TwoColumns
      (a.opened watched cancel w record₁ left)
      ((a.observedBy every shown recorded).opened watched cancel w record₂ left) := by
    refine ⟨left, _, (record₂, #[]), rfl, rfl, rfl, ?_⟩
    obtain rfl := Options.history_ok hrecord₁
    obtain rfl := Options.history_ok hrecord₂
    rfl
  have hfirst : RunState.Counted v (a.problem watched) a.options
      (a.opened watched cancel w record₁ left) :=
    ⟨[], .ofFresh (Checked.opened_fresh hrecord₁), h₁.limits_pos.1⟩
  have hsecond : RunState.Counted v ((a.problem watched).withCadence (.ok (.whole every)))
      (a.observedBy every shown recorded).options
      ((a.observedBy every shown recorded).opened watched cancel w record₂ left) :=
    ⟨[], .ofFresh (Checked.opened_fresh hrecord₂), h₂.limits_pos.1⟩
  constructor
  · have hturns := hlockstep.turns (f := RunState.exchanges v (a.problem watched))
      (g := RunState.exchanges v ((a.problem watched).withCadence (.ok (.whole every))))
      (fun h => (RunState.exchanges_like hv h.1).symm) a.options.maxTotalIts
      ⟨hlike, hfirst, hsecond⟩
    unfold Prepared.exchanges
    rw [h₁.turns_eq, h₂.turns_eq, List.flatMap_def, List.flatMap_def]
    exact congrArg List.flatten hturns.symm
  · obtain ⟨u, u', r, hu, hu', hend⟩ :=
      hlockstep.loop a.options.maxTotalIts a.options.maxTotalIts ⟨hlike, hfirst, hsecond⟩
    rw [minimize_eq_loop h₁.checked hw hrecord₁, minimize_eq_loop h₂.checked hw' hrecord₂, hu]
    have hu' : RunState.loop c v ((a.observedBy every shown recorded).problem watched)
        (a.observedBy every shown recorded).options.maxTotalIts
        (a.observedBy every shown recorded).options.maxTotalIts
        ((a.observedBy every shown recorded).opened watched cancel w record₂ left) = (u', r) := hu'
    rw [hu']
    exact RunState.core_outcome_like hv hend r

section Rehearsed

theorem Script.solver_simulates (s : Script Reply) (message : String) :
    (s.solver message).Simulates (SameView Memory.played) (s.solver message) where
  allocate n k m m' hm := ⟨m', rfl, hm⟩
  step := by
    intro n q b m m' hm
    have hnext : s.next m' = s.next m := by rw [next, next, hm]
    have hfirst : (s.solver message).step q b m = _ := s.play_eq b m
    have hsecond : (s.solver message).step q b m' = _ := s.play_eq b m'
    rw [hfirst, hsecond, hnext]
    exact ⟨{ m' with played := m'.played + 1 }, rfl, congrArg (· + 1) hm⟩
  message _ _ _ _ := rfl

def watchedCast : Cast := ⟨#[.squares, .total, .constant (.float 3.0)]⟩

def watchedScript : Script Reply :=
  .ofMoves [({ set := some [0.5] }, .requestFG), ({}, .newX), ({ set := some [0.25] }, .requestFG),
    ({}, .newX), ({}, .convergence)]

def watchedOptions : Value :=
  .mapping [(.text "printEvery", .int 1), (.text "errFcn", .callable ⟨1, "total", false⟩),
    (.text "outputFcn", .callable ⟨2, "three", false⟩)]

def plainChecked : Checked where
  evaluator := .joint (.callable ⟨0, "f", false⟩)
  options := {}
  x0 := [0.0]
  lower := [-4.0]
  upper := [4.0]

theorem diagnostics_only_observe_iterates :
    ∃ r r', (rehearse watchedCast watchedScript (.mapping [])).answer = .ok r ∧
      (rehearse watchedCast watchedScript watchedOptions).answer = .ok r' ∧
      r.status = .converged ∧ r.nit = 2 ∧ r.width = 2 ∧ r'.width = 3 ∧ r'.core = r.core ∧
      (rehearse watchedCast watchedScript (.mapping [])).printed.length = 0 ∧
      (rehearse watchedCast watchedScript watchedOptions).printed.length = 2 := by
  obtain ⟨r, hr, hread⟩ : ∃ r, (rehearse watchedCast watchedScript (.mapping [])).answer = .ok r ∧
      (r.status, r.nit, r.width) = (.converged, 2, 2) :=
    exists_of_map_toOption (by decide +kernel)
  obtain ⟨r', hr', hwidth⟩ : ∃ r',
      (rehearse watchedCast watchedScript watchedOptions).answer = .ok r' ∧ r'.width = 3 :=
    exists_of_map_toOption (by decide +kernel)
  obtain ⟨a, q, h⟩ := Starts.of_answer hr
  obtain ⟨a', q', h'⟩ := Starts.of_answer hr'
  obtain rfl : a = plainChecked := Except.ok.inj (h.checked.symm.trans rfl)
  obtain rfl : a' = plainChecked.observedBy 1 [⟨1, "total", false⟩] [⟨2, "three", false⟩] :=
    Except.ok.inj (h'.checked.symm.trans rfl)
  have hsquares : watchedCast.client.Simulates (SameView Memory.played) watchedCast.client
      ⟨0, "f", false⟩ := fun a m hm => ⟨_, rfl, hm⟩
  obtain ⟨-, hsame⟩ := diagnostics_only_observe (c := watchedCast.client) (π := Memory.played) h h'
    (watchedScript.solver_simulates "")
    (by
      intro g hg
      simp only [plainChecked, Evaluator.parts, List.mem_singleton, Value.callable.injEq] at hg
      exact hg ▸ hsquares)
    (by simp [plainChecked])
    (by
      intro f hf
      simp only [List.cons_append, List.nil_append, List.mem_cons, List.not_mem_nil, or_false] at hf
      obtain rfl | rfl := hf
      · exact fun a => ⟨_, _, _, rfl, rfl, rfl⟩
      · exact fun a => ⟨_, _, _, rfl, rfl, rfl⟩)
  have hcore : (Except.ok r' : Except Error Result).map Result.core =
      (Except.ok r : Except Error Result).map Result.core := by
    rw [← hr, ← hr']
    exact hsame
  simp only [Prod.mk.injEq] at hread
  exact ⟨r, r', hr, hr', hread.1, hread.2.1, hread.2.2, hwidth, Except.ok.inj hcore,
    by decide +kernel, by decide +kernel⟩

end Rehearsed

end BoxMin
