import BoxMin.Minimize
import BoxMin.Proofs.Run.Turn

/-!
The course of a run: the turns it takes, one for each call of the solver, and the way it ends. A
property that holds at the start and outlives a turn holds at each call.
-/

set_option autoImplicit false

namespace BoxMin

theorem split_snoc {α : Type} {past before rest : List α} {x y : α}
    (h : past ++ [x] = before ++ y :: rest) :
    (past = before ∧ x = y ∧ rest = []) ∨ ∃ rest', past = before ++ y :: rest' := by
  rcases List.eq_nil_or_concat rest with rfl | ⟨rest', z, rfl⟩
  · obtain ⟨hpast, hlast⟩ := List.append_inj' h rfl
    exact .inl ⟨hpast, by simpa using hlast, rfl⟩
  · have hinit : past ++ [x] = (before ++ y :: rest') ++ [z] := by simpa using h
    exact .inr ⟨rest', (List.append_inj' hinit rfl).1⟩

namespace RunState

variable {σ : Type} {n : Nat}

/-- The states in which a run of at most so many calls calls the solver, in order. -/
def turns (c : Client σ) (v : Solver σ) (p : Problem) : Nat → RunState σ n → List (RunState σ n)
  | 0, _ => []
  | left + 1, s =>
    s :: match s.advance c v p with
      | (t, .running) => turns c v p left t
      | _ => []

/-- The run comes from `s` to `u` through the turns that begin in the states of `past`. -/
inductive Course (c : Client σ) (v : Solver σ) (p : Problem) (s : RunState σ n) :
    List (RunState σ n) → RunState σ n → Prop where
  | start : Course c v p s [] s
  | step {past : List (RunState σ n)} {u w : RunState σ n} (hc : Course c v p s past u)
      (ha : u.advance c v p = (w, .running)) : Course c v p s (past ++ [u]) w

/-- How a run of at most `k` calls ends, with the turns it took. -/
inductive Finish (c : Client σ) (v : Solver σ) (p : Problem) (limit : Int) (k : Nat)
    (s : RunState σ n) : List (RunState σ n) → RunState σ n → Except Error Status → Prop where
  | exhausted {past : List (RunState σ n)} {u : RunState σ n} (hc : Course c v p s past u)
      (hk : past.length = k) :
      Finish c v p limit k s past
        (u.log Level.warning s!"Maxed-out the total iteration counter ({limit}), exiting")
        (.ok .maxTotalIter)
  | ended {past : List (RunState σ n)} {u w : RunState σ n} {status : Status}
      (hc : Course c v p s past u) (hk : past.length < k)
      (ha : u.advance c v p = (w, .ended status)) :
      Finish c v p limit k s (past ++ [u]) w (.ok status)
  | failed {past : List (RunState σ n)} {u w : RunState σ n} {e : Error}
      (hc : Course c v p s past u) (hk : past.length < k)
      (ha : u.advance c v p = (w, .failed e)) :
      Finish c v p limit k s (past ++ [u]) w (.error e)

/-- A property of the turns so far and the state after them that answered replies and log lines
keep. -/
structure Invariant (c : Client σ) (v : Solver σ) (p : Problem)
    (P : List (RunState σ n) → RunState σ n → Prop) : Prop where
  answered : ∀ {past s u}, P past s → (s.callSolver v p).2 = .ok () →
    Answered c p (s.told v p) u → P (past ++ [s]) u
  logged : ∀ {past s} (logged : Array LogEntry), P past s → P past { s with logged }

section Loop

variable {c : Client σ} {v : Solver σ} {p : Problem} {s t u : RunState σ n}
  {past : List (RunState σ n)} {limit : Int} {k : Nat}

theorem Course.cons (ha : s.advance c v p = (t, .running)) (hc : Course c v p t past u) :
    Course c v p s (s :: past) u := by
  induction hc with
  | start => exact .step .start ha
  | step _ hstep ih => exact .step ih hstep

theorem Course.declared (hc : Course c v p s past u) (hs : s.declared = none) :
    u.declared = none := by
  induction hc with
  | start => exact hs
  | step _ ha ih => exact declared_of_advance ih ha (by simp) (by simp)

theorem Course.running (hc : Course c v p s past u) {before rest : List (RunState σ n)}
    (hpast : past = before ++ t :: rest) : (t.advance c v p).2 = .running := by
  induction hc generalizing rest with
  | start => simp at hpast
  | step hc ha ih =>
    obtain ⟨-, rfl, -⟩ | ⟨rest', hbefore⟩ := split_snoc hpast
    · rw [ha]
    · exact ih hbefore

theorem Finish.cons {w : RunState σ n} {r : Except Error Status}
    (ha : s.advance c v p = (t, .running)) (hf : Finish c v p limit k t past w r) :
    Finish c v p limit (k + 1) s (s :: past) w r := by
  cases hf with
  | exhausted hc hk => exact .exhausted (hc.cons ha) (by simp [hk])
  | ended hc hk hend => exact .ended (hc.cons ha) (by simpa using hk) hend
  | failed hc hk hend => exact .failed (hc.cons ha) (by simpa using hk) hend

/-- The loop takes these turns and ends in one of these ways. -/
theorem loop_finish (k : Nat) (s : RunState σ n) :
    Finish c v p limit k s (turns c v p k s) (loop c v p limit k s).1
      (loop c v p limit k s).2 := by
  induction k generalizing s with
  | zero => exact .exhausted .start rfl
  | succ k ih =>
    unfold turns loop
    rcases ha : s.advance c v p with ⟨t, _ | status | e⟩
    · exact (ih t).cons ha
    · exact .ended .start (by simp) ha
    · exact .failed .start (by simp) ha

theorem Finish.exists_last {ts : List (RunState σ n)} {w : RunState σ n} {status : Status}
    (hf : Finish c v p limit k s ts w (.ok status)) (hk : 1 ≤ k) :
    ∃ past u x r logged, ts = past ++ [u] ∧ Course c v p s past u ∧ u.advance c v p = (x, r) ∧
      w = { x with logged } ∧ (∀ e, r ≠ .failed e) ∧
      (r = .ended status ∨ r = .running ∧ status = .maxTotalIter ∧ ts.length = k) := by
  cases hf with
  | exhausted hc hlength =>
    cases hc with
    | start => simp at hlength; omega
    | step hc ha => exact ⟨_, _, _, _, _, rfl, hc, ha, rfl, by simp, .inr ⟨rfl, rfl, hlength⟩⟩
  | ended hc hlength ha => exact ⟨_, _, w, _, w.logged, rfl, hc, ha, rfl, by simp, .inl rfl⟩

theorem course_of_turns {rest : List (RunState σ n)}
    (h : turns c v p k s = past ++ u :: rest) : Course c v p s past u ∧ past.length < k := by
  induction k generalizing s past with
  | zero => simp [turns] at h
  | succ k ih =>
    unfold turns at h
    cases past with
    | nil =>
      obtain ⟨rfl, -⟩ := List.cons.inj h
      exact ⟨.start, by simp⟩
    | cons s' past =>
      obtain ⟨rfl, htail⟩ := List.cons.inj h
      rcases ha : s.advance c v p with ⟨t, _ | status | e⟩
      · rw [ha] at htail
        obtain ⟨hc, hk⟩ := ih htail
        exact ⟨hc.cons ha, by simpa using hk⟩
      · simp [ha] at htail
      · simp [ha] at htail

end Loop

namespace Invariant

variable {c : Client σ} {v : Solver σ} {p : Problem}
  {P : List (RunState σ n) → RunState σ n → Prop} {s u w : RunState σ n}
  {past ts : List (RunState σ n)} {limit : Int} {k : Nat} {r : Progress} {status : Status}

theorem advance (hP : Invariant c v p P) (hs : P past s) (ha : s.advance c v p = (w, r))
    (hr : ∀ e, r ≠ .failed e) : P (past ++ [s]) w := by
  obtain ⟨hcall, u, logged, hu, rfl⟩ := answered_of_advance ha hr
  exact hP.logged logged (hP.answered hs hcall hu)

theorem course (hP : Invariant c v p P) (hs : P [] s) (hc : Course c v p s past u) :
    P past u := by
  induction hc with
  | start => exact hs
  | step _ ha ih => exact hP.advance ih ha (by simp)

theorem finish (hP : Invariant c v p P) (hs : P [] s)
    (hf : Finish c v p limit k s ts w (.ok status)) : P ts w := by
  cases hf with
  | exhausted hc hk => exact hP.logged _ (hP.course hs hc)
  | ended hc hk ha => exact hP.advance (hP.course hs hc) ha (by simp)

end Invariant

section Lockstep

variable {σ₁ σ₂ : Type}

/-- Two runs keep in step. As long as the states in which they call their solvers are related by `R`,
their turns come to the same, and `E` relates what these leave. -/
structure Lockstep (c₁ : Client σ₁) (c₂ : Client σ₂) (v₁ : Solver σ₁) (v₂ : Solver σ₂)
    (p₁ p₂ : Problem) (R E : RunState σ₁ n → RunState σ₂ n → Prop) : Prop where
  turn : ∀ {s t}, R s t → ∃ s' t' r, s.advance c₁ v₁ p₁ = (s', r) ∧
    t.advance c₂ v₂ p₂ = (t', r) ∧ E s' t' ∧ (r = .running → R s' t')
  exhausted : ∀ {s t} (level : Int) (message : String), R s t →
    E (s.log level message) (t.log level message)

namespace Lockstep

variable {c₁ : Client σ₁} {c₂ : Client σ₂} {v₁ : Solver σ₁} {v₂ : Solver σ₂} {p₁ p₂ : Problem}
  {R E : RunState σ₁ n → RunState σ₂ n → Prop} {s : RunState σ₁ n} {t : RunState σ₂ n}

theorem loop (h : Lockstep c₁ c₂ v₁ v₂ p₁ p₂ R E) (limit : Int) (k : Nat) (hst : R s t) :
    ∃ s' t' r, RunState.loop c₁ v₁ p₁ limit k s = (s', r) ∧
      RunState.loop c₂ v₂ p₂ limit k t = (t', r) ∧ E s' t' := by
  induction k generalizing s t with
  | zero => exact ⟨_, _, _, rfl, rfl, h.exhausted _ _ hst⟩
  | succ k ih =>
    obtain ⟨s', t', r, hs, ht, hend, hrunning⟩ := h.turn hst
    unfold RunState.loop
    rw [hs, ht]
    cases r with
    | running => exact ih (hrunning rfl)
    | ended status => exact ⟨s', t', .ok status, rfl, rfl, hend⟩
    | failed e => exact ⟨s', t', .error e, rfl, rfl, hend⟩

theorem turns {α : Type} {f : RunState σ₁ n → α} {g : RunState σ₂ n → α}
    (h : Lockstep c₁ c₂ v₁ v₂ p₁ p₂ R E) (hfg : ∀ {s t}, R s t → f s = g t) (k : Nat)
    (hst : R s t) :
    (RunState.turns c₁ v₁ p₁ k s).map f = (RunState.turns c₂ v₂ p₂ k t).map g := by
  induction k generalizing s t with
  | zero => rfl
  | succ k ih =>
    obtain ⟨s', t', r, hs, ht, -, hrunning⟩ := h.turn hst
    unfold RunState.turns
    rw [hs, ht, List.map_cons, List.map_cons, hfg hst]
    cases r with
    | running => rw [ih (hrunning rfl)]
    | ended status => rfl
    | failed e => rfl

end Lockstep

end Lockstep

end RunState

end BoxMin
