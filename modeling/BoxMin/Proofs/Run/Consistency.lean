import BoxMin.Proofs.Run.Values

/-!
Is a result one of the evaluator's? Point and gradient always go together, also where the solver
puts back those of an earlier evaluation; f is that of the last evaluation, which the solver cannot
put back.
-/

set_option autoImplicit false

namespace BoxMin

namespace RunState

variable {σ : Type} {n : Nat}

def asked (v : Solver σ) (p : Problem) (s : RunState σ n) : Vector Float n := (s.told v p).shared.x

/-- What the evaluator returns depends on the point alone and is `F` of it; the point stays. -/
def Deterministic (c : Client σ) (p : Problem) (F : Vector Float n → Float × Vector Float n) :
    Prop :=
  ∀ (s t : Shared σ n) (value : Value), p.evaluator.call c s = (t, .ok value) →
    t.x = s.x ∧ ∀ fg, readEvaluation n value = some fg → fg = F s.x

def KeepsPoint (c : Client σ) (n : Nat) (f : Callable) : Prop :=
  ∀ s : Shared σ n, (c.call f s).1.x = s.x

/-- A turn of a line search: unless it asks for values, the solver leaves point and gradient as they
are, or puts back those of an evaluation before. -/
def LineSearch (c : Client σ) (v : Solver σ) (p : Problem) (past : List (RunState σ n))
    (s : RunState σ n) : Prop :=
  s.reply v p = .requestFG ∨
    ((s.told v p).shared.x = s.shared.x ∧ (s.told v p).g = s.g) ∨
    ∃ e ∈ past, (e.evaluation? c v p).map Prod.snd = some (s.told v p).g ∧
      e.asked v p = (s.told v p).shared.x

/-- Either nothing has been evaluated yet, or g belongs to the point, and f to the point of the last
evaluation, which is the same unless the solver has moved it since. -/
inductive Settled (c : Client σ) (v : Solver σ) (p : Problem)
    (F : Vector Float n → Float × Vector Float n) : List (RunState σ n) → RunState σ n → Prop where
  | never {past : List (RunState σ n)} {s : RunState σ n}
      (h : ∀ u ∈ past, u.reply v p ≠ .requestFG) : Settled c v p F past s
  | since {before since : List (RunState σ n)} {e s : RunState σ n}
      (he : e.evaluation? c v p = some (F (e.asked v p)))
      (h : ∀ u ∈ since, u.reply v p ≠ .requestFG)
      (hf : s.f = (F (e.asked v p)).1) (hg : s.g = (F s.shared.x).2)
      (hx : (∀ u ∈ since, (u.told v p).shared.x = u.shared.x) → s.shared.x = e.asked v p) :
      Settled c v p F (before ++ e :: since) s

variable {c : Client σ} {v : Solver σ} {p : Problem} {o : Options} {s t u w : RunState σ n}
  {past : List (RunState σ n)} {limit : Int} {k : Nat} {r : Progress}
  {F : Vector Float n → Float × Vector Float n}

theorem diagnose_x {fs : List Callable} (hfs : ∀ f ∈ fs, KeepsPoint c n f) (i : Nat)
    (a : Shared σ n) : (c.diagnose i (fs.map .callable) a).1.x = a.x := by
  induction fs generalizing a with
  | nil => rfl
  | cons f fs ih =>
    -- a diagnostic that fails ends the row where it left the point
    have hfirst : (c.call f a).1.x = a.x := hfs f List.mem_cons_self a
    have hrest : ∀ a', (c.diagnose i (fs.map .callable) a').1.x = a'.x :=
      ih fun f hf => hfs f (List.mem_cons_of_mem _ hf)
    simp only [List.map_cons, Client.diagnose, Client.callValue]
    rcases hcall : c.call f a with ⟨a', e | value⟩
    · rw [hcall] at hfirst
      exact hfirst
    · rw [hcall] at hfirst
      have hx := (hrest a').trans hfirst
      dsimp only
      split
      · exact hfirst
      · rcases hvalues : c.diagnose i (fs.map .callable) a' with ⟨b, e | ys⟩
        · rw [hvalues] at hx
          exact hx
        · rw [hvalues] at hx
          exact hx

theorem display_x {fs : List Callable} {shown : Except Error Unit}
    (hdisplays : t.history.displays = fs.map .callable) (hfs : ∀ f ∈ fs, KeepsPoint c n f)
    (h : t.display c p = (u, shown)) : u.shared.x = t.shared.x := by
  have hx := diagnose_x hfs (t.history.size + 1) t.shared
  unfold display History.displayValues at h
  rw [hdisplays] at h
  split at h
  · cases h; rfl
  · cases h; rfl
  · rcases hd : c.diagnose (t.history.size + 1) (fs.map .callable) t.shared with ⟨b, e | errors⟩
    · rw [hd] at h hx
      cases h
      exact hx
    · rw [hd] at h hx
      cases h
      exact hx

theorem answered_x (hF : Deterministic c p F) (htally : Tally v p o past s)
    (hfs : ∀ f ∈ o.errFcn ++ o.outputFcn, KeepsPoint c n f) (hd : u.declared = none)
    (hu : Answered c p (s.told v p) u) : u.shared.x = (s.told v p).shared.x := by
  cases hu with
  | verdict ht => rfl
  | declared ht hcall => simp at hd
  | evaluated ht hcall hread => exact (hF _ _ _ hcall).1
  | @noted shown sh extras history printed ht hdisplay hcalls hpush =>
    have hdisplays : (s.told v p).history.displays = o.errFcn.map .callable := by
      rw [told_history, htally.displays]
    have houtputs : (s.told v p).history.outputs = o.outputFcn.map .callable := by
      rw [told_history, htally.outputs]
    have hshown := display_x (t := { s.told v p with outer := (s.told v p).outer + 1 }) hdisplays
      (fun f hf => hfs f (List.mem_append_left _ hf)) hdisplay
    have hrecorded := diagnose_x (fun f hf => hfs f (List.mem_append_right _ hf))
      ((s.told v p).history.size + 1) shown
    rw [← houtputs, hcalls] at hrecorded
    exact hrecorded.trans hshown

theorem evaluation?_eq (hF : Deterministic c p F) {fg : Float × Vector Float n}
    (he : s.evaluation? c v p = some fg) : fg = F (s.asked v p) := by
  unfold evaluation? at he
  split at he
  · rename_i value _ hvalue
    exact (hF _ _ value (Prod.ext rfl hvalue)).2 _ he
  · cases he

theorem Settled.kept (h : Settled c v p F past s) (hF : Deterministic c p F)
    (hs : s.LineSearch c v p past) (ht : s.reply v p ≠ .requestFG)
    (hx : u.shared.x = (s.told v p).shared.x) (hf : u.f = s.f) (hg : u.g = (s.told v p).g) :
    Settled c v p F (past ++ [s]) u := by
  cases h with
  | never h =>
    refine .never fun x hmem => ?_
    rcases List.mem_append.mp hmem with hpast | hlast
    · exact h x hpast
    · rw [List.mem_singleton.mp hlast]
      exact ht
  | @since before since e _ he h hsf hsg hsx =>
    -- kept both or put both back: either way the gradient is that of the point
    have hboth : (s.told v p).g = (F (s.told v p).shared.x).2 := by
      rcases hs.resolve_left ht with ⟨hkeptx, hkeptg⟩ | ⟨e', -, hback, hpoint⟩
      · rw [hkeptx, hkeptg, hsg]
      · obtain ⟨⟨f', g'⟩, he', hg'⟩ := Option.map_eq_some_iff.mp hback
        have hvalues := evaluation?_eq hF he'
        rw [hpoint] at hvalues
        rw [← hvalues]
        exact hg'.symm
    rw [List.append_assoc, List.cons_append]
    refine .since he ?_ (hf.trans hsf) ?_ ?_
    · intro x hmem
      rcases List.mem_append.mp hmem with hsince | hlast
      · exact h x hsince
      · rw [List.mem_singleton.mp hlast]
        exact ht
    · rw [hg, hx, hboth]
    · intro hmoved
      rw [hx, hmoved s (by simp)]
      exact hsx fun x hmem => hmoved x (List.mem_append_left _ hmem)

theorem Settled.answered (h : Settled c v p F past s) (hF : Deterministic c p F)
    (hs : s.LineSearch c v p past) (hx : u.shared.x = (s.told v p).shared.x)
    (hd : u.declared = none) (hu : Answered c p (s.told v p) u) :
    Settled c v p F (past ++ [s]) u := by
  have hvalues := answered_values hu
  by_cases ht : s.reply v p = .requestFG
  · cases hu with
    | verdict hverdict => exact absurd ht (Task.keepsRunning_eq_false_iff.mp hverdict).1
    | declared => simp at hd
    | noted hiterate => rw [reply, hiterate] at ht; cases ht
    | @evaluated sh value f g _ hcall hread =>
      have he : s.evaluation? c v p = some (f, g) := by simp [evaluation?, ht, hcall, hread]
      have hvalues := evaluation?_eq hF he
      obtain ⟨hf, hg⟩ := Prod.mk.inj hvalues
      exact .since (by rw [he, hvalues]) (by simp) hf (by rw [hx]; exact hg) (fun _ => hx)
  · rw [evaluation?_of_ne ht] at hvalues
    obtain ⟨hf, hg⟩ := Prod.mk.inj hvalues
    exact h.kept hF hs ht hx hf hg

theorem Settled.logged (h : Settled c v p F past s) (logged : Array LogEntry) :
    Settled c v p F past { s with logged } := by
  cases h with
  | never hnone => exact .never hnone
  | since he hsince hf hg hx => exact .since he hsince hf hg hx

theorem Settled.advance (h : Settled c v p F past s) (hF : Deterministic c p F)
    (htally : Tally v p o past s) (hfs : ∀ f ∈ o.errFcn ++ o.outputFcn, KeepsPoint c n f)
    (hs : s.LineSearch c v p past) (hd : s.declared = none) (ha : s.advance c v p = (w, r))
    (hr : ∀ e, r ≠ .failed e) (hi : r ≠ .ended .infeasible) :
    Settled c v p F (past ++ [s]) w := by
  have hnone := declared_of_advance hd ha hr hi
  obtain ⟨-, u, logged, hu, rfl⟩ := answered_of_advance ha hr
  have hdeclared : u.declared = none := hnone
  have hx := answered_x hF htally hfs hdeclared hu
  exact (h.answered hF hs hx hdeclared hu).logged logged

def LineSearches (c : Client σ) (v : Solver σ) (p : Problem) (ts : List (RunState σ n)) : Prop :=
  ∀ past s rest, ts = past ++ s :: rest → s.LineSearch c v p past

theorem LineSearches.init (h : LineSearches c v p (past ++ [s])) :
    LineSearches c v p past ∧ s.LineSearch c v p past := by
  constructor
  · intro before t rest hpast
    exact h before t (rest ++ [s]) (by simp [hpast])
  · exact h past s [] rfl

theorem Course.settled (hc : Course c v p s past u) (hfresh : s.Fresh o)
    (hF : Deterministic c p F) (hfs : ∀ f ∈ o.errFcn ++ o.outputFcn, KeepsPoint c n f)
    (hs : LineSearches c v p past) : Settled c v p F past u := by
  induction hc with
  | start => exact .never (by simp)
  | step hc ha ih =>
    obtain ⟨hbefore, hlast⟩ := hs.init
    have htally := tally_invariant.course (.ofFresh hfresh) hc
    exact (ih hbefore).advance hF htally hfs hlast (hc.declared hfresh.declared) ha (by simp)
      (by simp)

theorem Finish.settled {status : Status} {ts : List (RunState σ n)}
    (hf : Finish c v p limit k s ts w (.ok status)) (hstatus : status ≠ .infeasible)
    (hfresh : s.Fresh o) (hF : Deterministic c p F)
    (hfs : ∀ f ∈ o.errFcn ++ o.outputFcn, KeepsPoint c n f) (hs : LineSearches c v p ts) :
    Settled c v p F ts w := by
  cases hf with
  | exhausted hc hk => exact (hc.settled hfresh hF hfs hs).logged _
  | ended hc hk ha =>
    obtain ⟨hbefore, hlast⟩ := hs.init
    have htally := tally_invariant.course (.ofFresh hfresh) hc
    exact (hc.settled hfresh hF hfs hbefore).advance hF htally hfs hlast
      (hc.declared hfresh.declared) ha (by simp) (by simpa using hstatus)

end RunState

/-- With a deterministic evaluator, callables that do not move the point and a solver that searches
along lines, g is the evaluator's at the point of the result; f is its value at the last point asked
for. So the result is the evaluator's exactly if f is the same at both, which are the same point
unless the solver has moved it since. -/
theorem result_consistent_iff {σ : Type} {c : Client σ} {v : Solver σ} {fcn lower upper : Value}
    {opts : Option Value} {watched : Bool} {cancel : Cancellation} {memory : σ} {a : Checked}
    {q : Prepared σ} (h : Starts v fcn lower upper opts watched cancel memory a q)
    {F : Vector Float q.n → Float × Vector Float q.n} (hF : RunState.Deterministic c q.problem F)
    (hfs : ∀ f ∈ a.options.errFcn ++ a.options.outputFcn, RunState.KeepsPoint c q.n f)
    (hs : RunState.LineSearches c v q.problem (q.turns c v)) {r : Result}
    (hr : (minimize c v fcn lower upper opts watched cancel memory).answer = .ok r)
    (hstatus : r.status ≠ .infeasible)
    (hevaluated : ∃ s ∈ q.turns c v, s.reply v q.problem = .requestFG) :
    ∃ before e since x, q.turns c v = before ++ e :: since ∧
      e.evaluation? c v q.problem = some (F (e.asked v q.problem)) ∧
      (∀ u ∈ since, u.reply v q.problem ≠ .requestFG) ∧
      r.x = x.toList ∧ r.f = (F (e.asked v q.problem)).1 ∧ r.g = (F x).2.toList ∧
      (r.f = (F x).1 ∧ r.g = (F x).2.toList ↔ (F (e.asked v q.problem)).1 = (F x).1) ∧
      (x ≠ e.asked v q.problem →
        ∃ u ∈ since, (u.told v q.problem).shared.x ≠ u.shared.x) := by
  obtain ⟨hfresh, -⟩ := h.fresh
  obtain ⟨w, status, text, hfinish, -, rfl, -⟩ := h.result hr
  have hsettled := hfinish.settled hstatus hfresh hF hfs hs
  -- a request was made, so the run is past its first evaluation
  obtain ⟨s, hmem, hrequest⟩ := hevaluated
  generalize hts : q.turns c v = ts at hsettled hmem ⊢
  cases hsettled with
  | never hnone => exact absurd hrequest (hnone s hmem)
  | @since before since e _ he hsince hf hg hx =>
    refine ⟨before, e, since, w.shared.x, rfl, he, hsince, rfl, hf, congrArg Vector.toList hg, ?_, ?_⟩
    · have hwg : w.g.toList = (F w.shared.x).2.toList := congrArg Vector.toList hg
      show w.f = _ ∧ w.g.toList = _ ↔ _
      rw [hf]
      exact and_iff_left hwg
    · intro hne
      refine Classical.byContradiction fun hstill => hne (hx fun u hu => ?_)
      exact Classical.byContradiction fun hmoved => hstill ⟨u, hu, hmoved⟩

section Rehearsed

theorem readEvaluation_evaluation {n : Nat} (f : Float) (g : Vector Float n) :
    readEvaluation n (evaluation f g.toList) = some (f, g) := by
  have hpair : (evaluation f g.toList).pair = .ok (.float f, .ofFloats g.toList) := rfl
  have hf : (Value.float f).toFloat = .ok f := rfl
  have hg : gradient n (.ofFloats g.toList) = .ok g := by
    simp [gradient, Value.toVector_ofFloats, Vector.toList]
  simp only [readEvaluation, hpair, hf, hg]

def squaresAt {n : Nat} (x : Vector Float n) : Float × Vector Float n :=
  (sumOfSquares x.toList, x.map (2.0 * ·))

theorem squares_deterministic {n : Nat} {p : Problem}
    (hp : p.evaluator = .joint (.callable ⟨0, "f", false⟩)) :
    RunState.Deterministic (n := n) (Cast.client ⟨#[.squares]⟩) p squaresAt := by
  intro s t value hcall
  rw [hp] at hcall
  have hvalue : value = evaluation (sumOfSquares s.x.toList) (doubled s.x.toList) ∧ t.x = s.x := by
    obtain ⟨ht, hv⟩ := Prod.mk.inj hcall
    exact ⟨(Except.ok.inj hv).symm, by rw [← ht]⟩
  obtain ⟨rfl, ht⟩ := hvalue
  refine ⟨ht, fun fg hread => ?_⟩
  have hdoubled : doubled s.x.toList = (s.x.map (2.0 * ·)).toList := by
    simp [doubled, Vector.toList_map]
  rw [hdoubled, readEvaluation_evaluation] at hread
  exact (Option.some.inj hread).symm

namespace RunState

variable {σ : Type} {n : Nat}

instance (c : Client σ) (v : Solver σ) (p : Problem) (past : List (RunState σ n))
    (s : RunState σ n) : Decidable (s.LineSearch c v p past) :=
  inferInstanceAs (Decidable (_ ∨ _))

instance (c : Client σ) (v : Solver σ) (p : Problem) (ts : List (RunState σ n)) :
    Decidable (LineSearches c v p ts) :=
  decidable_of_iff (∀ i : Fin ts.length, ts[i].LineSearch c v p (ts.take i)) <| by
    constructor
    · intro h past s rest hts
      subst hts
      simpa using h ⟨past.length, by simp⟩
    · intro h i
      exact h _ _ (ts.drop (i + 1)) (by simp)

end RunState

def squaresCast : Cast := ⟨#[.squares]⟩

def searchesAlone (v : Solver Memory) (a : Checked) (q : Prepared Memory) : Bool :=
  (a.options.errFcn ++ a.options.outputFcn).isEmpty &&
    decide (RunState.LineSearches squaresCast.client v q.problem (q.turns squaresCast.client v)) &&
    decide (∃ s ∈ q.turns squaresCast.client v, s.reply v q.problem = .requestFG)

structure Searches (script : Script Reply) (a : Checked) (q : Prepared Memory) : Prop where
  starts : Rehearses script (.mapping []) a q
  deterministic : RunState.Deterministic (n := q.n) squaresCast.client q.problem squaresAt
  keeps : ∀ f ∈ a.options.errFcn ++ a.options.outputFcn,
    RunState.KeepsPoint squaresCast.client q.n f
  searches : RunState.LineSearches squaresCast.client (script.solver "") q.problem
    (q.turns squaresCast.client (script.solver ""))
  asks : ∃ s ∈ q.turns squaresCast.client (script.solver ""),
    s.reply (script.solver "") q.problem = .requestFG

theorem searches_of_test (script : Script Reply)
    (h : ((checkArguments (.callable ⟨0, "f", false⟩) (.list [.float (-4.0)]) (.list [.float 4.0])
        (some (.mapping []))).toOption.bind fun a =>
      (a.prepare (script.solver "") true {} {}).2.toOption.map
        (searchesAlone (script.solver "") a)) = some true) :
    ∃ a q, Searches script a q := by
  obtain ⟨a, q, hstarts, htest⟩ := Starts.of_test h
  obtain ⟨-, -, hevaluator, -⟩ := hstarts.fresh
  obtain ⟨x0, hfcn, -⟩ := checkArguments_ok hstarts.checked
  simp only [searchesAlone, Bool.and_eq_true, decide_eq_true_eq, List.isEmpty_iff] at htest
  obtain ⟨⟨hnone, hsearches⟩, hasks⟩ := htest
  refine ⟨a, q, hstarts, squares_deterministic ?_, by simp [hnone], hsearches, hasks⟩
  rw [hevaluator]
  exact (Except.ok.inj hfcn).symm

def restoringScript : Script Reply :=
  .ofMoves [({ set := some [1.0] }, .requestFG), ({}, .newX), ({ set := some [3.0] }, .requestFG),
    ({ set := some [1.0], gradient := some [2.0] }, .abnormal)]

/-- The point and the gradient are those of the iterate, the value is that of the point given up. -/
theorem restored_result_inconsistent :
    ∃ a q r, Searches restoringScript a q ∧
      (rehearse squaresCast restoringScript (.mapping [])).answer = .ok r ∧
      r.status = .abnormal ∧ r.x = [1.0] ∧ r.g = [2.0] ∧ r.f = 9.0 ∧
      ¬ ∃ x : Vector Float q.n, r.x = x.toList ∧ r.f = (squaresAt x).1 ∧
        r.g = (squaresAt x).2.toList := by
  obtain ⟨a, q, h⟩ := searches_of_test restoringScript (by decide +kernel)
  obtain ⟨r, hr, hread⟩ : ∃ r : Result,
      (rehearse squaresCast restoringScript (.mapping [])).answer = .ok r ∧
      (r.status, r.x, r.g, r.f) = (.abnormal, [1.0], [2.0], 9.0) :=
    exists_of_map_toOption (by decide +kernel)
  simp only [Prod.mk.injEq] at hread
  obtain ⟨hstatus, hx, hg, hf⟩ := hread
  refine ⟨a, q, r, h, hr, hstatus, hx, hg, hf, ?_⟩
  rintro ⟨x, hpoint, hvalue, -⟩
  have hother : sumOfSquares [1.0] ≠ 9.0 := by decide +kernel
  rw [hf, squaresAt, ← hpoint, hx] at hvalue
  exact hother hvalue.symm

def stayingScript : Script Reply :=
  .ofMoves [({ set := some [3.0] }, .requestFG), ({ set := some [1.0] }, .requestFG), ({}, .newX),
    ({}, .convergence)]

theorem result_consistent_iff_staying :
    ∃ a q r, Searches stayingScript a q ∧
      (rehearse squaresCast stayingScript (.mapping [])).answer = .ok r ∧
      r.status = .converged ∧ r.x = [1.0] ∧
      ∃ x : Vector Float q.n, r.x = x.toList ∧ r.f = (squaresAt x).1 ∧
        r.g = (squaresAt x).2.toList := by
  obtain ⟨a, q, h⟩ := searches_of_test stayingScript (by decide +kernel)
  obtain ⟨r, hr, hread⟩ : ∃ r : Result,
      (rehearse squaresCast stayingScript (.mapping [])).answer = .ok r ∧
      (r.status, r.x, r.f) = (.converged, [1.0], 1.0) :=
    exists_of_map_toOption (by decide +kernel)
  simp only [Prod.mk.injEq] at hread
  obtain ⟨hstatus, hpoint, hf⟩ := hread
  obtain ⟨before, e, since, x, -, -, -, hx, hlast, -, hiff, -⟩ :=
    result_consistent_iff h.starts h.deterministic h.keeps h.searches hr (by simp [hstatus]) h.asks
  have hsquares : sumOfSquares [1.0] = 1.0 := by decide +kernel
  have hsame : (squaresAt (e.asked (stayingScript.solver "") q.problem)).1 = (squaresAt x).1 := by
    rw [← hlast, hf, ← hsquares, squaresAt, ← hx, hpoint]
  obtain ⟨hvalue, hgradient⟩ := hiff.mpr hsame
  exact ⟨a, q, r, h, hr, hstatus, hpoint, x, hx, hvalue, hgradient⟩

end Rehearsed

end BoxMin
