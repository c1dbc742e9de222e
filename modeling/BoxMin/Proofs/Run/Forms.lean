import BoxMin.Proofs.Columns
import BoxMin.Proofs.Run.Counting

/-!
Forms of vectors make no difference to a run. Bounds and starting point may come in either form of
a column, and gradients in any shape with the same entries: what the run does, state by state, and
what it comes to stay the same.
-/

set_option autoImplicit false

namespace BoxMin

def SameEntries (v w : Value) : Prop := ∃ xs, v.toVector = .ok xs ∧ w.toVector = .ok xs

theorem sameEntries_array {a a' : NdArray} {xs : List Float}
    (haxes : a'.shape.length ≤ axisLimit) (hitems : a'.items = a.items)
    (h : (Value.array a).toVector = .ok xs) : SameEntries (.array a) (.array a') := by
  refine ⟨xs, h, ?_⟩
  obtain ⟨g, hgrid, rfl⟩ := map_eq_ok_iff.mp h
  obtain ⟨g', hgrid', -, hentries⟩ := Value.toGrid_array haxes hitems hgrid
  rw [Value.toVector, hgrid', ← hentries]
  rfl

inductive SameGradient : Except Error Value → Except Error Value → Prop where
  | refl (a : Except Error Value) : SameGradient a a
  | recast {g g' : Value} (hg : SameEntries g g') : SameGradient (.ok g) (.ok g')

/-- Answers of a function for both: the same f, and a gradient with the same entries. -/
inductive SameEvaluation : Except Error Value → Except Error Value → Prop where
  | refl (a : Except Error Value) : SameEvaluation a a
  | recast {v v' f g g' : Value} (hv : v.pair = .ok (f, g)) (hv' : v'.pair = .ok (f, g'))
      (hg : SameEntries g g') : SameEvaluation (.ok v) (.ok v')

variable {σ : Type} {n : Nat}

inductive SameReading : Except Error Value → Except Error Value → Prop where
  | refl (a : Except Error Value) : SameReading a a
  | recast {v v' : Value} (hv : v'.toFloat = v.toFloat) : SameReading (.ok v) (.ok v')

structure Client.Agrees (c c' : Client σ) (R : Except Error Value → Except Error Value → Prop)
    (f : Callable) : Prop where
  shared : ∀ {n : Nat} (s : Shared σ n), (c'.call f s).1 = (c.call f s).1
  answer : ∀ {n : Nat} (s : Shared σ n), R (c.call f s).2 (c'.call f s).2

/-- Of the evaluator's answers, only the gradients may differ, and those only in form. -/
def Evaluator.Recast (c c' : Client σ) : Evaluator → Prop
  | .joint f => ∀ h, f = .callable h → c.Agrees c' SameEvaluation h
  | .pair f g => (∀ h, f = .callable h → c.Agrees c' Eq h) ∧
      ∀ h, g = .callable h → c.Agrees c' SameGradient h

/-- Evaluator and diagnostics of a checked problem are answered alike, but for the forms of
gradients and of what diagnostics are read from. -/
structure Checked.Recast (c c' : Client σ) (a : Checked) : Prop where
  evaluator : a.evaluator.Recast c c'
  diagnostics : ∀ d ∈ a.options.errFcn ++ a.options.outputFcn, c.Agrees c' SameReading d

section Calls

variable {c c' : Client σ} {R : Except Error Value → Except Error Value → Prop} {v : Value}
  {s : Shared σ n}

theorem Client.Agrees.call_eq {f : Callable} (h : c.Agrees c' Eq f) (s : Shared σ n) :
    c'.call f s = c.call f s :=
  Prod.ext (h.shared s) (h.answer s).symm

theorem callValue_eq (h : ∀ f, v = .callable f → c.Agrees c' Eq f) (s : Shared σ n) :
    c'.callValue v s = c.callValue v s := by
  cases v with
  | callable f => exact (h f rfl).call_eq s
  | _ => rfl

theorem callValue_recast (hrefl : ∀ a, R a a) (h : ∀ f, v = .callable f → c.Agrees c' R f)
    (s : Shared σ n) :
    ∃ t a a', c.callValue v s = (t, a) ∧ c'.callValue v s = (t, a') ∧ R a a' := by
  cases v with
  | callable f =>
    have hf := h f rfl
    exact ⟨_, _, (c'.call f s).2, rfl, Prod.ext (hf.shared s) rfl, hf.answer s⟩
  | _ => exact ⟨_, _, _, rfl, rfl, hrefl _⟩

theorem evaluator_recast {e : Evaluator} (h : e.Recast c c') (s : Shared σ n) :
    ∃ t a a', e.call c s = (t, a) ∧ e.call c' s = (t, a') ∧ SameEvaluation a a' := by
  cases e with
  | joint f => exact callValue_recast .refl h s
  | pair f g =>
    obtain ⟨hf, hg⟩ := h
    simp only [Evaluator.call, callValue_eq hf s]
    rcases c.callValue f s with ⟨t, e | u⟩
    · exact ⟨_, _, _, rfl, rfl, .refl _⟩
    · -- the objective has left one state for both, and the gradient is called in it
      obtain ⟨w, a, a', hcall, hcall', hsame⟩ := callValue_recast .refl hg t
      simp only [hcall, hcall']
      cases hsame with
      | refl a => exact ⟨_, _, _, rfl, rfl, .refl _⟩
      | recast hentries => exact ⟨_, _, _, rfl, rfl, .recast rfl rfl hentries⟩

theorem diagnose_recast {fs : List Value} (i : Nat)
    (h : ∀ f, .callable f ∈ fs → c.Agrees c' SameReading f) (s : Shared σ n) :
    c'.diagnose i fs s = c.diagnose i fs s := by
  induction fs generalizing s with
  | nil => rfl
  | cons f fs ih =>
    have hrest := ih fun g hg => h g (List.mem_cons_of_mem _ hg)
    obtain ⟨t, a, a', hcall, hcall', hsame⟩ :=
      callValue_recast (v := f) .refl (fun g hg => h g (hg ▸ List.mem_cons_self)) s
    simp only [Client.diagnose, hcall, hcall', hrest]
    cases hsame with
    | refl a => rfl
    | recast hv => simp only [hv]

end Calls

theorem gradient_recast {g g' : Value} (h : SameEntries g g') (n : Nat) :
    gradient n g' = gradient n g := by
  obtain ⟨xs, hg, hg'⟩ := h
  unfold gradient
  rw [hg, hg']

namespace RunState

variable {c c' : Client σ} {v : Solver σ} {p : Problem} {o : Options} {s : RunState σ n}

theorem take_recast {a a' : Value} (h : SameEvaluation (.ok a) (.ok a')) :
    s.take a' = s.take a := by
  cases h with
  | refl => rfl
  | recast hv hv' hg =>
    unfold take
    rw [hv, hv']
    simp only [gradient_recast hg]

theorem evaluate_recast (h : p.evaluator.Recast c c') : s.evaluate c' p = s.evaluate c p := by
  obtain ⟨t, a, a', hcall, hcall', hsame⟩ := evaluator_recast h s.shared
  unfold evaluate
  rw [hcall, hcall']
  cases hsame with
  | refl => rfl
  | recast hv hv' hg => exact take_recast (.recast hv hv' hg)

theorem note_recast (hd : ∀ d ∈ o.errFcn ++ o.outputFcn, c.Agrees c' SameReading d)
    (hdisplays : s.history.displays = o.errFcn.map .callable)
    (houtputs : s.history.outputs = o.outputFcn.map .callable) : s.note c' p = s.note c p := by
  have hshown (i : Nat) (t : Shared σ n) :
      c'.diagnose i s.history.displays t = c.diagnose i s.history.displays t := by
    refine diagnose_recast i (fun f hf => hd f ?_) t
    rw [hdisplays] at hf
    simp_all
  have hrecorded (i : Nat) (t : Shared σ n) :
      c'.diagnose i s.history.outputs t = c.diagnose i s.history.outputs t := by
    refine diagnose_recast i (fun f hf => hd f ?_) t
    rw [houtputs] at hf
    simp_all
  have hdisplay : ({ s with outer := s.outer + 1 } : RunState σ n).display c' p =
      ({ s with outer := s.outer + 1 } : RunState σ n).display c p := by
    unfold display History.displayValues
    simp only [hshown]
  unfold note
  rw [hdisplay]
  rcases hcall : ({ s with outer := s.outer + 1 } : RunState σ n).display c p with ⟨d, e | _⟩
  · rfl
  · obtain ⟨shared, printed, rfl⟩ := display_eq hcall
    dsimp only
    unfold record History.record
    simp only [hrecorded]

theorem advance_recast {a : Checked} (h : a.Recast c c') (hp : p.evaluator = a.evaluator)
    (hdisplays : s.history.displays = a.options.errFcn.map .callable)
    (houtputs : s.history.outputs = a.options.outputFcn.map .callable) :
    s.advance c' v p = s.advance c v p := by
  have hevaluator : p.evaluator.Recast c c' := hp ▸ h.evaluator
  cases hcall : (s.callSolver v p).2 with
  | error e => rw [advance_of_error hcall, advance_of_error hcall]
  | ok =>
    have hnote : (s.told v p).note c' p = (s.told v p).note c p :=
      note_recast h.diagnostics (by rw [told_history, hdisplays]) (by rw [told_history, houtputs])
    rw [advance_of_ok hcall, advance_of_ok hcall]
    unfold answer
    split
    · unfold answerRequest
      rw [evaluate_recast hevaluator]
    · rw [acceptIterate_eq, acceptIterate_eq, hnote]
    · rfl

theorem recast_lockstep {a : Checked} (h : a.Recast c c') (hp : p.evaluator = a.evaluator) :
    Lockstep (n := n) c c' v v p p (fun s t => t = s ∧ ∃ past, Tally v p a.options past s)
      (fun s t => t = s) where
  turn := by
    -- the tally says that the record calls the diagnostics of the options, and no others
    rintro s t ⟨rfl, past, htally⟩
    obtain ⟨w, r, ha⟩ : ∃ w r, t.advance c v p = (w, r) := ⟨_, _, rfl⟩
    have hsame := advance_recast (v := v) h hp htally.displays htally.outputs
    refine ⟨w, w, r, ha, hsame.trans ha, rfl, ?_⟩
    rintro rfl
    exact ⟨rfl, _, tally_invariant.advance htally ha (by simp)⟩
  exhausted := by
    rintro s t level message ⟨rfl, -⟩
    rfl

end RunState

section Journal

variable {c c' : Client σ}

theorem Client.Agrees.journaled {R : Except Error Value → Except Error Value → Prop} {f : Callable}
    (h : c.Agrees c' R f) : c.journaled.Agrees c'.journaled R f where
  shared s := by
    simp only [Client.journaled, Client.noting, Client.carried, h.shared]
  answer s := h.answer _

theorem Evaluator.Recast.journaled {e : Evaluator} (h : e.Recast c c') :
    e.Recast c.journaled c'.journaled := by
  cases e with
  | joint f => exact fun g hg => (h g hg).journaled
  | pair f g => exact ⟨fun k hk => (h.1 k hk).journaled, fun k hk => (h.2 k hk).journaled⟩

theorem Checked.Recast.journaled {a : Checked} (h : a.Recast c c') :
    a.Recast c.journaled c'.journaled where
  evaluator := h.evaluator.journaled
  diagnostics d hd := (h.diagnostics d hd).journaled

end Journal

section Minimize

variable {c c' : Client σ} {v : Solver σ} {fcn lower upper lower' upper' : Value}
  {opts opts' : Option Value} {watched : Bool} {cancel : Cancellation} {memory : σ}

theorem minimize_recast (hl : SameColumn lower lower') (hu : SameColumn upper upper')
    (hopts : SameStart opts opts')
    (hc : ∀ a, checkArguments fcn lower upper opts = .ok a → a.Recast c c') :
    minimize c' v fcn lower' upper' opts' watched cancel memory =
      minimize c v fcn lower upper opts watched cancel memory := by
  have hsame := checkArguments_recast hl hu hopts fcn
  cases hchecked : checkArguments fcn lower upper opts with
  | error e =>
    rw [minimize_of_unchecked hchecked, minimize_of_unchecked (hsame.trans hchecked)]
  | ok a =>
    have hchecked' := hsame.trans hchecked
    rcases hw : v.allocate a.x0.length (a.options.m : Int) memory with ⟨left, e | w⟩
    · rw [minimize_of_unallocated hchecked hw, minimize_of_unallocated hchecked' hw]
    · cases hrecord : a.options.history with
      | error e =>
        rw [minimize_of_unrecorded hchecked hw hrecord, minimize_of_unrecorded hchecked' hw hrecord]
      | ok record =>
        have hfresh : (a.opened watched cancel w record left).Fresh a.options :=
          a.opened_fresh hrecord
        obtain ⟨s, t, r, hs, ht, rfl⟩ :=
          (RunState.recast_lockstep (v := v) (p := a.problem watched) (hc a hchecked) rfl).loop
            a.options.maxTotalIts a.options.maxTotalIts ⟨rfl, [], RunState.Tally.ofFresh hfresh⟩
        rw [minimize_eq_loop hchecked hw hrecord, minimize_eq_loop hchecked' hw hrecord, hs, ht]

theorem calls_recast (hl : SameColumn lower lower') (hu : SameColumn upper upper')
    (hopts : SameStart opts opts')
    (hc : ∀ a, checkArguments fcn lower upper opts = .ok a → a.Recast c c') :
    calls c' v fcn lower' upper' opts' watched cancel memory =
      calls c v fcn lower upper opts watched cancel memory := by
  unfold calls
  rw [minimize_recast hl hu hopts fun a ha => (hc a ha).journaled]

end Minimize

/-- Starting point and bounds are accepted when they are columns of one length, and refused as
mismatched otherwise; in which form they come, and in which shape gradients come, then changes
neither what a run leaves nor which calls it makes. -/
theorem forms_make_no_difference :
    (∀ (x0 l u : Value) (gx gl gu : Grid Float),
      x0.toDoubles = .ok gx → l.toDoubles = .ok gl → u.toDoubles = .ok gu →
      ((∃ n, gx.IsColumn n ∧ gl.IsColumn n ∧ gu.IsColumn n) →
        validateShapes x0 l u = .ok (gx.items, gl.items, gu.items) ∧
        validateShapes (.ofFloats gx.items) (.ofFloats gl.items) (.ofFloats gu.items) =
          .ok (gx.items, gl.items, gu.items)) ∧
      ((¬ ∃ n, gx.IsColumn n ∧ gl.IsColumn n ∧ gu.IsColumn n) →
        ∃ e, validateShapes x0 l u = .error e ∧ e.isMismatch = true)) ∧
    ∀ {σ : Type} (c c' : Client σ) (v : Solver σ) (fcn lower upper lower' upper' : Value)
      (opts opts' : Option Value) (watched : Bool) (cancel : Cancellation) (memory : σ),
      SameColumn lower lower' → SameColumn upper upper' → SameStart opts opts' →
      (∀ a, checkArguments fcn lower upper opts = .ok a → a.Recast c c') →
      minimize c' v fcn lower' upper' opts' watched cancel memory =
          minimize c v fcn lower upper opts watched cancel memory ∧
        calls c' v fcn lower' upper' opts' watched cancel memory =
          calls c v fcn lower upper opts watched cancel memory := by
  constructor
  · intro x0 l u gx gl gu hx hl hu
    constructor
    · rintro ⟨n, hcx, hcl, hcu⟩
      have haccepts := validateShapes_of_columns hx hl hu hcx hcl hcu
      exact ⟨haccepts, validateShapes_idempotent haccepts⟩
    · exact validateShapes_of_others hx hl hu
  · intro σ c c' v fcn lower upper lower' upper' opts opts' watched cancel memory hl hu hopts hc
    exact ⟨minimize_recast hl hu hopts hc, calls_recast hl hu hopts hc⟩

section Rows

def matrixRow (xs : List Float) : NdArray :=
  ⟨⟨[1, xs.length], xs.map .double, by simp [volume]⟩, .float64⟩

def asMatrixRow : Value → Value
  | .tuple [f, g] => match g.toVector with
    | .ok xs => .tuple [f, .array (matrixRow xs)]
    | .error _ => .tuple [f, g]
  | v => v

def Client.inRows {σ : Type} (c : Client σ) (f : Callable) : Client σ where
  call h s :=
    let (t, a) := c.call h s
    (t, if h = f then a.map asMatrixRow else a)

variable {σ : Type} {c : Client σ} {f h : Callable}

theorem sameEvaluation_asMatrixRow (v : Value) : SameEvaluation (.ok v) (.ok (asMatrixRow v)) := by
  unfold asMatrixRow
  split
  · rename_i f g
    split
    · rename_i xs hread
      have hrow : SameEntries (.ofFloats xs) (.array (matrixRow xs)) :=
        sameEntries_array (by simp [matrixRow, axisLimit]) rfl (Value.toVector_ofFloats xs)
      obtain ⟨ys, hys, hrow⟩ := hrow
      obtain rfl : xs = ys := Except.ok.inj ((Value.toVector_ofFloats xs).symm.trans hys)
      exact .recast rfl rfl ⟨xs, hread, hrow⟩
    · exact .refl _
  · exact .refl _

theorem inRows_agrees : c.Agrees (c.inRows f) SameEvaluation f where
  shared _ := rfl
  answer s := by
    simp only [Client.inRows]
    cases (c.call f s).2 with
    | error e => exact .refl _
    | ok v => exact sameEvaluation_asMatrixRow v

theorem inRows_agrees_of_ne (hne : h ≠ f) : c.Agrees (c.inRows f) SameReading h where
  shared _ := rfl
  answer s := by
    simp only [Client.inRows, if_neg hne]
    exact .refl _

theorem recast_inRows {a : Checked} (hf : a.evaluator = .joint (.callable f))
    (hnot : f ∉ a.options.errFcn ++ a.options.outputFcn) : a.Recast c (c.inRows f) where
  evaluator := by
    rw [hf]
    rintro h ⟨rfl⟩
    exact inRows_agrees
  diagnostics d hd := inRows_agrees_of_ne (ne_of_mem_of_not_mem hd hnot)

def twoPlaceScript : Script Reply :=
  .ofMoves [({ set := some [0.5, 0.25] }, .requestFG), ({}, .newX), ({}, .convergence)]

def startingAt (x0 : Value) : Value :=
  .mapping [(.text "x0", x0), (.text "maxIts", .int 1),
    (.text "outputFcn", .callable ⟨1, "total", false⟩)]

def flatPair (x y : Float) : Value := .list [.float x, .float y]

def columnPair (x y : Float) : Value := .list [.list [.float x], .list [.float y]]

def uprightPair (x y : Float) : NdArray := ⟨⟨[2, 1], [.double x, .double y], rfl⟩, .float64⟩

/-- The second run gets columns where the first gets plain vectors, and gradients in rows. -/
theorem forms_make_no_difference_for_rows :
    (validateShapes (columnPair 1.0 2.0) (flatPair (-4.0) (-4.0)) (.ofFloats [4.0, 4.0]) =
        .ok ([1.0, 2.0], [-4.0, -4.0], [4.0, 4.0]) ∧
      ∃ e, validateShapes (columnPair 1.0 2.0) (flatPair (-4.0) (-4.0)) (.array (matrixRow [4.0, 4.0])) =
        .error e ∧ e.isMismatch = true) ∧
    ∃ r : Result,
      (minimize (Cast.client ⟨#[.squares, .total]⟩) (twoPlaceScript.solver "")
        (.callable ⟨0, "f", false⟩) (flatPair (-4.0) (-4.0)) (.ofFloats [4.0, 4.0])
        (some (startingAt (flatPair 1.0 2.0))) true {} {}).answer = .ok r ∧
      (minimize ((Cast.client ⟨#[.squares, .total]⟩).inRows ⟨0, "f", false⟩)
        (twoPlaceScript.solver "") (.callable ⟨0, "f", false⟩) (columnPair (-4.0) (-4.0))
        (.array (uprightPair 4.0 4.0)) (some (startingAt (columnPair 1.0 2.0))) true {} {}).answer =
          .ok r ∧
      (r.nit, r.x) = (1, [0.5, 0.25]) := by
  have hplain (x y : Float) : (flatPair x y).toDoubles = .ok ⟨[2], [x, y], rfl⟩ :=
    Value.toDoubles_ok_iff.mpr ⟨rfl, _, rfl⟩
  have hcolumn (x y : Float) : (columnPair x y).toDoubles = .ok ⟨[2, 1], [x, y], rfl⟩ :=
    Value.toDoubles_ok_iff.mpr ⟨rfl, _, rfl⟩
  have harray (x y : Float) : (Value.ofFloats [x, y]).toDoubles = .ok ⟨[2], [x, y], rfl⟩ :=
    Value.toDoubles_ok_iff.mpr ⟨rfl, _, rfl⟩
  have hrow (x y : Float) :
      (Value.array (matrixRow [x, y])).toDoubles = .ok ⟨[1, 2], [x, y], rfl⟩ :=
    Value.toDoubles_ok_iff.mpr ⟨rfl, _, rfl⟩
  have hwrapped (x y : Float) : SameColumn (flatPair x y) (columnPair x y) :=
    .recast (hplain x y) (hcolumn x y) (.inl rfl) (.inr rfl) rfl
  have hupright (x y : Float) : SameColumn (.ofFloats [x, y]) (.array (uprightPair x y)) :=
    sameColumn_array (a := .ofFloats [x, y]) rfl rfl rfl (harray x y)
  obtain ⟨hshapes, hruns⟩ := forms_make_no_difference
  obtain ⟨haccepts, -⟩ := hshapes _ _ (.ofFloats [4.0, 4.0]) _ _ _ (hcolumn _ _) (hplain _ _)
    (harray _ _)
  obtain ⟨-, hrefuses⟩ := hshapes _ _ (.array (matrixRow [4.0, 4.0])) _ _ _ (hcolumn _ _)
    (hplain _ _) (hrow _ _)
  refine ⟨⟨(haccepts ⟨2, .inr rfl, .inl rfl, .inl rfl⟩).1, hrefuses ?_⟩, ?_⟩
  · rintro ⟨n, -, -, h | h⟩ <;> cases h
  obtain ⟨a', hchecked, hdiagnostics⟩ : ∃ a', checkArguments (.callable ⟨0, "f", false⟩)
      (flatPair (-4.0) (-4.0)) (.ofFloats [4.0, 4.0]) (some (startingAt (flatPair 1.0 2.0))) =
        .ok a' ∧ a'.options.errFcn ++ a'.options.outputFcn = [⟨1, "total", false⟩] :=
    exists_of_map_toOption (by decide +kernel)
  have hrecast (a : Checked) (ha : checkArguments (.callable ⟨0, "f", false⟩)
      (flatPair (-4.0) (-4.0)) (.ofFloats [4.0, 4.0]) (some (startingAt (flatPair 1.0 2.0))) =
        .ok a) :
      a.Recast (Cast.client ⟨#[.squares, .total]⟩)
        ((Cast.client ⟨#[.squares, .total]⟩).inRows ⟨0, "f", false⟩) := by
    obtain rfl : a' = a := Except.ok.inj (hchecked.symm.trans ha)
    obtain ⟨x0, hfcn, -⟩ := checkArguments_ok ha
    exact recast_inRows (Except.ok.inj hfcn).symm (by simp [hdiagnostics])
  obtain ⟨hsame, -⟩ := hruns _ _ (twoPlaceScript.solver "") _ _ _ (columnPair (-4.0) (-4.0))
    (.array (uprightPair 4.0 4.0)) _ (some (startingAt (columnPair 1.0 2.0))) true {} {}
    (hwrapped _ _) (hupright _ _) (.recast [] _ (hwrapped _ _)) hrecast
  obtain ⟨r, hr, hread⟩ : ∃ r : Result,
      (minimize (Cast.client ⟨#[.squares, .total]⟩) (twoPlaceScript.solver "")
        (.callable ⟨0, "f", false⟩) (flatPair (-4.0) (-4.0)) (.ofFloats [4.0, 4.0])
        (some (startingAt (flatPair 1.0 2.0))) true {} {}).answer = .ok r ∧
      (r.nit, r.x) = (1, [0.5, 0.25]) := exists_of_map_toOption (by decide +kernel)
  exact ⟨r, hr, (congrArg Outcome.answer hsame).trans hr, hread⟩

end Rows

end BoxMin
