import BoxMin.Proofs.Run.Counting

set_option autoImplicit false

namespace BoxMin

namespace RunState

variable {σ : Type} {n : Nat}

def evaluation? (c : Client σ) (v : Solver σ) (p : Problem) (s : RunState σ n) :
    Option (Float × Vector Float n) :=
  match s.reply v p, (p.evaluator.call c (s.told v p).shared).2 with
  | .requestFG, .ok value => readEvaluation n value
  | _, _ => none

/-- The values of the last evaluation that succeeded in these turns, zeros if none did, and the turns
after it. -/
inductive Since (c : Client σ) (v : Solver σ) (p : Problem) :
    List (RunState σ n) → Float → Vector Float n → List (RunState σ n) → Prop where
  | never {past : List (RunState σ n)} (h : ∀ u ∈ past, u.evaluation? c v p = none) :
      Since c v p past 0.0 (.replicate n 0.0) past
  | last {before since : List (RunState σ n)} {e : RunState σ n} {f : Float} {g : Vector Float n}
      (he : e.evaluation? c v p = some (f, g)) (h : ∀ u ∈ since, u.evaluation? c v p = none) :
      Since c v p (before ++ e :: since) f g since

/-- The gradient went from `g` through these turns, and in each of them the solver alone wrote into
it. -/
inductive Written (v : Solver σ) (p : Problem) (g : Vector Float n) :
    List (RunState σ n) → Vector Float n → Prop where
  | nil : Written v p g [] g
  | snoc {since : List (RunState σ n)} {u : RunState σ n} (h : Written v p g since u.g) :
      Written v p g (since ++ [u]) (u.told v p).g

def Held (c : Client σ) (v : Solver σ) (p : Problem) (past : List (RunState σ n)) (f : Float)
    (g : Vector Float n) : Prop :=
  ∃ g₀ since, Since c v p past f g₀ since ∧ Written v p g₀ since g

/-- What the first two columns of the record say of these turns: f and the norm of g as they were
held when an iterate was reported. -/
def columns (v : Solver σ) (p : Problem) (past : List (RunState σ n)) : List (List Float) :=
  (past.filter fun u => u.reply v p = .newX).map fun u => [u.f, infNorm (u.told v p).g.toList]

variable {c : Client σ} {v : Solver σ} {p : Problem} {o : Options} {s t u w : RunState σ n}
  {past since : List (RunState σ n)} {limit : Int} {k : Nat} {r : Progress} {f : Float}
  {g : Vector Float n}

theorem evaluation?_of_ne (ht : s.reply v p ≠ .requestFG) : s.evaluation? c v p = none := by
  unfold evaluation?
  split
  · contradiction
  · rfl

theorem Since.snoc (h : Since c v p past f g since) (hu : u.evaluation? c v p = none) :
    Since c v p (past ++ [u]) f g (since ++ [u]) := by
  cases h with
  | never hnone =>
    refine .never fun x hx => ?_
    rcases List.mem_append.mp hx with hpast | hlast
    · exact hnone x hpast
    · rwa [List.mem_singleton.mp hlast]
  | last he hnone =>
    rw [List.append_assoc, List.cons_append]
    refine .last he fun x hx => ?_
    rcases List.mem_append.mp hx with hsince | hlast
    · exact hnone x hsince
    · rwa [List.mem_singleton.mp hlast]

theorem Held.evaluated (he : u.evaluation? c v p = some (f, g)) : Held c v p (past ++ [u]) f g :=
  ⟨g, [], .last he (by simp), .nil⟩

theorem Held.kept (h : Held c v p past f u.g) (hu : u.evaluation? c v p = none) :
    Held c v p (past ++ [u]) f (u.told v p).g := by
  obtain ⟨g₀, since, hsince, hwritten⟩ := h
  exact ⟨g₀, since ++ [u], hsince.snoc hu, hwritten.snoc⟩

theorem answered_values (hu : Answered c p (s.told v p) u) :
    (u.f, u.g) = (s.evaluation? c v p).getD (s.f, (s.told v p).g) := by
  cases hu with
  | verdict ht =>
    obtain ⟨hrequest, -⟩ := Task.keepsRunning_eq_false_iff.mp ht
    simp [evaluation?_of_ne hrequest]
  | declared ht hcall => simp [evaluation?, reply, ht, hcall]
  | evaluated ht hcall hread => simp [evaluation?, reply, ht, hcall, hread]
  | noted ht hdisplay hcalls hpush =>
    have hrequest : s.reply v p ≠ .requestFG := by simp [reply, ht]
    simp [evaluation?_of_ne hrequest]

theorem Held.answered (h : Held c v p past s.f s.g) (hu : Answered c p (s.told v p) u) :
    Held c v p (past ++ [s]) u.f u.g := by
  have hvalues := answered_values hu
  cases he : s.evaluation? c v p with
  | none =>
    obtain ⟨hf, hg⟩ := Prod.mk.inj (hvalues.trans (by rw [he]))
    rw [hf, hg]
    exact h.kept he
  | some fg =>
    obtain ⟨hf, hg⟩ := Prod.mk.inj (hvalues.trans (by rw [he]))
    rw [hf, hg]
    exact .evaluated he

theorem columns_snoc (past : List (RunState σ n)) (u : RunState σ n) :
    columns v p (past ++ [u]) = columns v p past ++
      if u.reply v p = .newX then [[u.f, infNorm (u.told v p).g.toList]] else [] := by
  by_cases hiterate : u.reply v p = .newX
  · simp [columns, hiterate]
  · simp [columns, hiterate]

theorem columns_answered (h : s.history.toList.map (·.take 2) = columns v p past)
    (hu : Answered c p (s.told v p) u) :
    u.history.toList.map (·.take 2) = columns v p (past ++ [s]) := by
  rw [columns_snoc]
  cases hu with
  | verdict ht =>
    obtain ⟨-, hiterate⟩ := Task.keepsRunning_eq_false_iff.mp ht
    simp [reply, hiterate, h]
  | declared ht hcall => simp [reply, ht, h]
  | evaluated ht hcall hread => simp [reply, ht, h]
  | noted ht hdisplay hcalls hpush =>
    have hrows := History.toList_push hpush
    rw [told_history] at hrows
    simp [hrows, reply, ht, h]

structure Follows (c : Client σ) (v : Solver σ) (p : Problem) (past : List (RunState σ n))
    (s : RunState σ n) : Prop where
  held : Held c v p past s.f s.g
  columns : s.history.toList.map (·.take 2) = columns v p past

theorem Follows.ofFresh (h : s.Fresh o) : Follows c v p [] s where
  held := by
    rw [h.f, h.g]
    exact ⟨_, [], .never (by simp), .nil⟩
  columns := by simp [h.history, History.toList, RunState.columns]

theorem follows_invariant : Invariant (n := n) c v p (Follows c v p) where
  answered h _ hu := ⟨h.held.answered hu, columns_answered h.columns hu⟩
  logged _ h := ⟨h.held, h.columns⟩

end RunState

/-- At every call the solver is handed f and g of the last evaluation that succeeded, with what it
wrote into g itself; the record has them as they were held at each reported iterate, and a result as
they were held in the end. -/
theorem values_held {σ : Type} {c : Client σ} {v : Solver σ} {fcn lower upper : Value}
    {opts : Option Value} {watched : Bool} {cancel : Cancellation} {memory : σ} {a : Checked}
    {q : Prepared σ} (h : Starts v fcn lower upper opts watched cancel memory a q) :
    (∀ past s rest, q.turns c v = past ++ s :: rest →
      RunState.Held c v q.problem past (s.query q.problem).f s.buffers.g ∧
      s.history.toList.map (·.take 2) = RunState.columns v q.problem past) ∧
    ∀ r, (minimize c v fcn lower upper opts watched cancel memory).answer = .ok r →
      r.history.map (·.take 2) = RunState.columns v q.problem (q.turns c v) ∧
      (∃ g, RunState.Held c v q.problem (q.turns c v) r.f g ∧ r.g = g.toList) ∧
      ∃ past s, q.turns c v = past ++ [s] ∧
        (∀ f g, s.evaluation? c v q.problem = some (f, g) → r.f = f ∧ r.g = g.toList) ∧
        (s.evaluation? c v q.problem = none → r.f = s.f ∧ r.g = (s.told v q.problem).g.toList) := by
  obtain ⟨hfresh, -⟩ := h.fresh
  obtain ⟨-, hcalls⟩ := h.limits_pos
  constructor
  · intro past s rest hturns
    obtain ⟨hc, -⟩ := h.course hturns
    obtain ⟨hheld, hcolumns⟩ := RunState.follows_invariant.course (.ofFresh hfresh) hc
    exact ⟨hheld, hcolumns⟩
  · intro r hr
    obtain ⟨w, status, text, hfinish, -, rfl, -⟩ := h.result hr
    obtain ⟨hheld, hcolumns⟩ := RunState.follows_invariant.finish (.ofFresh hfresh) hfinish
    refine ⟨hcolumns, ⟨w.g, hheld, rfl⟩, ?_⟩
    obtain ⟨past, s, x, progress, logged, hturns, -, ha, rfl, hfailed, -⟩ :=
      hfinish.exists_last hcalls
    obtain ⟨-, u, _, hu, rfl⟩ := RunState.answered_of_advance ha hfailed
    have hvalues := RunState.answered_values hu
    refine ⟨past, s, hturns, ?_, ?_⟩
    · intro f g he
      obtain ⟨hf, hg⟩ := Prod.mk.inj (hvalues.trans (by rw [he]))
      exact ⟨hf, congrArg Vector.toList hg⟩
    · intro he
      obtain ⟨hf, hg⟩ := Prod.mk.inj (hvalues.trans (by rw [he]))
      exact ⟨hf, congrArg Vector.toList hg⟩

def writingScript : Script Reply :=
  .ofMoves [({ set := some [2.0] }, .requestFG), ({ gradient := some [1.0] }, .newX),
    ({ set := some [3.0] }, .requestFG)]

def onceFeasible : Cast :=
  ⟨#[.table [{ answer := evaluation 4.0 [4.0] }, { signal := some (.infeasible []) }]]⟩

/-- The values of the feasible point outlive the infeasible one, with what the solver wrote. -/
theorem values_held_past_infeasible :
    ∃ r a q, Rehearses writingScript (.mapping []) a q ∧
      (rehearse onceFeasible writingScript (.mapping [])).answer = .ok r ∧
      r.status = .infeasible ∧ r.x = [3.0] ∧ r.f = 4.0 ∧ r.g = [1.0] ∧ r.history = [[4.0, 1.0]] ∧
      ∃ g, RunState.Held onceFeasible.client (writingScript.solver "") q.problem
        (q.turns onceFeasible.client (writingScript.solver "")) r.f g ∧ r.g = g.toList := by
  obtain ⟨r, hr, hread⟩ : ∃ r : Result,
      (rehearse onceFeasible writingScript (.mapping [])).answer = .ok r ∧
      (r.status, r.x, r.f, r.g, r.history) = (.infeasible, [3.0], 4.0, [1.0], [[4.0, 1.0]]) :=
    exists_of_map_toOption (by decide +kernel)
  simp only [Prod.mk.injEq] at hread
  obtain ⟨hstatus, hx, hf, hg, hrows⟩ := hread
  obtain ⟨a, q, h⟩ := Starts.of_answer hr
  obtain ⟨-, hresult⟩ := values_held (c := onceFeasible.client) h
  obtain ⟨-, hheld, -⟩ := hresult r hr
  exact ⟨r, a, q, h, hr, hstatus, hx, hf, hg, hrows, hheld⟩

end BoxMin
