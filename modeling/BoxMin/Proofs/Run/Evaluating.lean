import BoxMin.Proofs.Run.Setup

set_option autoImplicit false

namespace BoxMin

namespace RunState

variable {σ : Type} {n : Nat}

def Completes (c : Client σ) (p : Problem) (s : RunState σ n) (f : Float) (g : Vector Float n) :
    Prop :=
  ∃ shared v, p.evaluator.call c s.shared = (shared, .ok v) ∧ readEvaluation n v = some (f, g)

/-- The evaluator returns two parts, of which the first can be read as f, the second not as a
gradient. -/
def HalfRead (c : Client σ) (p : Problem) (s : RunState σ n) (f : Float) (e : Error) : Prop :=
  ∃ shared v fv gv, p.evaluator.call c s.shared = (shared, .ok v) ∧ v.pair = .ok (fv, gv) ∧
    fv.toFloat = .ok f ∧ gradient n gv = .error e

/-- The answer to a request takes over the values of a complete evaluation, and keeps f and g where
there is none. -/
structure KeepsPair (c : Client σ) (p : Problem) (s : RunState σ n) : Prop where
  taken : ∀ f g, s.Completes c p f g →
    (s.answerRequest c p).1.f = f ∧ (s.answerRequest c p).1.g = g
  kept : (∀ f g, ¬ s.Completes c p f g) →
    (s.answerRequest c p).1.f = s.f ∧ (s.answerRequest c p).1.g = s.g

section Answers

variable {c : Client σ} {p : Problem} {s : RunState σ n} {f : Float} {g : Vector Float n}
  {e : Error}

theorem answerRequest_pair (c : Client σ) (p : Problem) (s : RunState σ n) :
    (s.answerRequest c p).1.f = (s.evaluate c p).1.f ∧
      (s.answerRequest c p).1.g = (s.evaluate c p).1.g := by
  unfold answerRequest
  split
  · next h => rw [h]; exact ⟨rfl, rfl⟩
  · next h =>
    obtain ⟨logged, hchecked⟩ := checkStop_frame (p := p) (s.evaluate c p).1
    rw [h] at hchecked ⊢
    rw [hchecked]
    exact ⟨rfl, rfl⟩

theorem evaluate_of_completes (h : s.Completes c p f g) :
    (s.evaluate c p).1.f = f ∧ (s.evaluate c p).1.g = g ∧ (s.evaluate c p).2 = .ok () := by
  obtain ⟨shared, v, hcall, hread⟩ := h
  rw [evaluate_of_value hcall, take_of_read hread]
  exact ⟨rfl, rfl, rfl⟩

theorem evaluate_of_halfRead (h : s.HalfRead c p f e) :
    (s.evaluate c p).1.f = f ∧ (s.evaluate c p).1.g = s.g ∧ (s.evaluate c p).2 = .error e := by
  obtain ⟨shared, v, fv, gv, hcall, hpair, hf, hg⟩ := h
  rw [evaluate_of_value hcall]
  simp [take, hpair, hf, hg]

theorem not_completes_of_halfRead (h : s.HalfRead c p f e) (f' : Float) (g : Vector Float n) :
    ¬ s.Completes c p f' g := by
  obtain ⟨shared, v, fv, gv, hcall, hpair, hf, hg⟩ := h
  rintro ⟨shared', v', hcall', hread⟩
  cases hcall.symm.trans hcall'
  simp [readEvaluation, hpair, hf, hg] at hread

theorem evaluate_of_neither (hnone : ∀ f g, ¬ s.Completes c p f g)
    (hhalf : ∀ f e, ¬ s.HalfRead c p f e) :
    (s.evaluate c p).1.f = s.f ∧ (s.evaluate c p).1.g = s.g := by
  rcases hcall : p.evaluator.call c s.shared with ⟨shared, e | v⟩
  · by_cases hdeclared : ∃ reasons, e = .signal (.infeasible reasons)
    · obtain ⟨reasons, rfl⟩ := hdeclared
      obtain ⟨declared, hdeclare⟩ := declare_frame { s with shared := shared } reasons
      rw [evaluate_of_declared hcall, hdeclare]
      exact ⟨rfl, rfl⟩
    · rw [evaluate_of_error hcall fun reasons he => hdeclared ⟨reasons, he⟩]
      exact ⟨rfl, rfl⟩
  · rw [evaluate_of_value hcall]
    unfold take
    cases hpair : v.pair with
    | error fault => exact ⟨rfl, rfl⟩
    | ok parts =>
      obtain ⟨fv, gv⟩ := parts
      cases hf : fv.toFloat with
      | error fault => simp [hf]
      | ok f =>
        cases hg : gradient n gv with
        | error e => exact absurd ⟨shared, v, fv, gv, hcall, hpair, hf, hg⟩ (hhalf f e)
        | ok g =>
          exact absurd ⟨shared, v, hcall, by simp [readEvaluation, hpair, hf, hg]⟩ (hnone f g)

theorem answerRequest_of_halfRead (h : s.HalfRead c p f e) :
    (s.answerRequest c p).1.f = f ∧ (s.answerRequest c p).1.g = s.g ∧
      (s.answerRequest c p).2 = .failed e := by
  obtain ⟨hf, hg, hfailed⟩ := evaluate_of_halfRead h
  obtain ⟨hf', hg'⟩ := answerRequest_pair c p s
  refine ⟨hf'.trans hf, hg'.trans hg, ?_⟩
  unfold answerRequest
  split
  · next heval =>
    rw [heval] at hfailed
    cases hfailed
    rfl
  · next heval =>
    rw [heval] at hfailed
    cases hfailed

/-- The pair is kept by every answer to a request but one to an evaluation that is half read. Then
the run fails with a new f next to the old gradient. -/
theorem keepsPair_iff (c : Client σ) (p : Problem) (s : RunState σ n) :
    (s.KeepsPair c p ↔ ∀ f e, s.HalfRead c p f e → f = s.f) ∧
      ∀ f e, s.HalfRead c p f e → (s.answerRequest c p).1.f = f ∧
        (s.answerRequest c p).1.g = s.g ∧ (s.answerRequest c p).2 = .failed e := by
  obtain ⟨hf, hg⟩ := answerRequest_pair c p s
  refine ⟨⟨?_, ?_⟩, fun f e => answerRequest_of_halfRead⟩
  · intro hkeeps f e hhalf
    obtain ⟨hkept, -⟩ := hkeeps.kept (not_completes_of_halfRead hhalf)
    obtain ⟨hnew, -⟩ := answerRequest_of_halfRead hhalf
    rw [← hnew, hkept]
  · intro hsame
    constructor
    · intro f g hcompletes
      obtain ⟨hnewf, hnewg, -⟩ := evaluate_of_completes hcompletes
      exact ⟨hf.trans hnewf, hg.trans hnewg⟩
    · intro hnone
      by_cases hhalf : ∃ f e, s.HalfRead c p f e
      · obtain ⟨f, e, hhalf⟩ := hhalf
        obtain ⟨hnew, hold, -⟩ := answerRequest_of_halfRead hhalf
        exact ⟨hnew.trans (hsame f e hhalf), hold⟩
      · rw [hf, hg]
        exact evaluate_of_neither hnone fun f e h => hhalf ⟨f, e, h⟩

end Answers

end RunState

section Rehearsed

def longGradient : Cast :=
  ⟨#[.table [{ answer := evaluation 1.0 [2.0] }, { answer := evaluation 3.0 [4.0, 5.0] }]]⟩

def twoRequests : Script Reply :=
  .ofMoves [({ set := some [0.5] }, .requestFG), ({ set := some [0.25] }, .requestFG),
    ({}, .convergence)]

def requestingRun : Memory × Except Error (Prepared Memory) :=
  ({} : Fields).prepare (twoRequests.solver "") (.joint (.callable ⟨0, "fg", false⟩)) [0.0] [-4.0]
    [4.0] true {} {}

def Prepared.secondRequest (q : Prepared Memory) : RunState Memory q.n :=
  (q.state.next longGradient.client (twoRequests.solver "") q.problem).told
    (twoRequests.solver "") q.problem

/-- The second evaluation is refused for its gradient; its f stays next to the first gradient. -/
theorem refused_gradient_replaces_f :
    ∃ left q, requestingRun = (left, .ok q) ∧
      (q.secondRequest.f, q.secondRequest.g.toList) = (1.0, [2.0]) ∧
      ((q.secondRequest.answerRequest longGradient.client q.problem).1.f,
        (q.secondRequest.answerRequest longGradient.client q.problem).1.g.toList) = (3.0, [2.0]) ∧
      ¬ q.secondRequest.KeepsPair longGradient.client q.problem := by
  obtain ⟨q, hq, hpairs⟩ : ∃ q, requestingRun.2 = .ok q ∧
      ((q.secondRequest.f, q.secondRequest.g.toList),
          (q.secondRequest.answerRequest longGradient.client q.problem).1.f,
          (q.secondRequest.answerRequest longGradient.client q.problem).1.g.toList,
          (q.secondRequest.evaluate longGradient.client q.problem).2.toOption) =
        ((1.0, [2.0]), 3.0, [2.0], none) :=
    exists_of_map_toOption (by decide +kernel)
  simp only [Prod.mk.injEq] at hpairs
  obtain ⟨⟨hf, hg⟩, hnewf, hnewg, hfailed⟩ := hpairs
  refine ⟨_, q, Prod.ext rfl hq, by rw [hf, hg], by rw [hnewf, hnewg], fun hkeeps => ?_⟩
  obtain ⟨hkept, -⟩ := hkeeps.kept fun f g hcompletes => by
    obtain ⟨-, -, hok⟩ := RunState.evaluate_of_completes hcompletes
    rw [hok] at hfailed
    cases hfailed
  rw [hnewf, hf] at hkept
  exact absurd hkept (by decide +kernel)

end Rehearsed

end BoxMin
