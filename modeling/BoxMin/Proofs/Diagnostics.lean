import BoxMin.Client

/-!
Callables called one after the other. Either all of them answer with doubles, or one is the first
that does not; both are relations between the states before and after, so they leave no room for a
call made twice, left out or made out of turn.
-/

set_option autoImplicit false

namespace BoxMin

namespace Client

variable {σ : Type} {n : Nat}

/-- Called in this order, each where the one before left off, the callables answer with these
doubles. -/
inductive Yields (c : Client σ) : List Callable → Shared σ n → List Float → Shared σ n → Prop where
  | nil {s : Shared σ n} : Yields c [] s [] s
  | cons {f : Callable} {fs : List Callable} {s t u : Shared σ n} {value : Value} {y : Float}
      {ys : List Float} (hcall : c.call f s = (t, .ok value)) (hy : value.toFloat = .ok y)
      (hrest : Yields c fs t ys u) : Yields c (f :: fs) s (y :: ys) u

/-- Called in this order, `f` is the first that raises something or answers with what is no
double. -/
inductive Fails (c : Client σ) :
    List Callable → Shared σ n → Callable → Error → Shared σ n → Prop where
  | raised {f : Callable} {fs : List Callable} {s t : Shared σ n} {e : Error}
      (hcall : c.call f s = (t, .error e)) : Fails c (f :: fs) s f e t
  | rejected {f : Callable} {fs : List Callable} {s t : Shared σ n} {value : Value} {fault : Fault}
      (hcall : c.call f s = (t, .ok value)) (hy : value.toFloat = .error fault) :
      Fails c (f :: fs) s f (.fault fault) t
  | later {f g : Callable} {fs : List Callable} {s t u : Shared σ n} {value : Value} {y : Float}
      {e : Error} (hcall : c.call f s = (t, .ok value)) (hy : value.toFloat = .ok y)
      (hrest : Fails c fs t g e u) : Fails c (f :: fs) s g e u

variable {c : Client σ} {i : Nat} {fs : List Callable} {s t : Shared σ n}

theorem diagnose_cons (f : Callable) (fs : List Callable) (s : Shared σ n) :
    c.diagnose i ((f :: fs).map .callable) s =
      match c.call f s with
      | (t, .error e) => (t, .error (blame (.callable f) i e))
      | (t, .ok value) =>
        match value.toFloat with
        | .error fault => (t, .error (.callbackFailed (.callable f) i (.fault fault)))
        | .ok y =>
          ((c.diagnose i (fs.map .callable) t).1,
            (c.diagnose i (fs.map .callable) t).2.map (y :: ·)) := by
  simp only [List.map_cons, diagnose, callValue]
  rcases c.call f s with ⟨t, e | value⟩
  · rfl
  · dsimp only
    cases value.toFloat with
    | error fault => rfl
    | ok y => rcases c.diagnose i (fs.map .callable) t with ⟨u, e | ys⟩ <;> rfl

theorem Yields.diagnose {ys : List Float} (h : c.Yields fs s ys t) (i : Nat) :
    c.diagnose i (fs.map .callable) s = (t, .ok ys) := by
  induction h with
  | nil => rfl
  | cons hcall hy hrest ih =>
    rw [diagnose_cons, hcall]
    simp only [hy, ih]
    rfl

theorem Fails.diagnose {f : Callable} {e : Error} (h : c.Fails fs s f e t) (i : Nat) :
    c.diagnose i (fs.map .callable) s = (t, .error (blame (.callable f) i e)) := by
  induction h with
  | raised hcall => rw [diagnose_cons, hcall]
  | rejected hcall hy =>
    rw [diagnose_cons, hcall]
    simp only [hy]
    rfl
  | later hcall hy hrest ih =>
    rw [diagnose_cons, hcall]
    simp only [hy, ih]
    rfl

theorem yields_or_fails (c : Client σ) (fs : List Callable) (s : Shared σ n) :
    (∃ ys t, c.Yields fs s ys t) ∨ ∃ f e t, c.Fails fs s f e t := by
  induction fs generalizing s with
  | nil => exact .inl ⟨[], s, .nil⟩
  | cons f fs ih =>
    rcases hcall : c.call f s with ⟨t, e | value⟩
    · exact .inr ⟨f, e, t, .raised hcall⟩
    · cases hy : value.toFloat with
      | error fault => exact .inr ⟨f, .fault fault, t, .rejected hcall hy⟩
      | ok y =>
        obtain ⟨ys, u, hys⟩ | ⟨g, e, u, hg⟩ := ih t
        · exact .inl ⟨y :: ys, u, .cons hcall hy hys⟩
        · exact .inr ⟨g, e, u, .later hcall hy hg⟩

end Client

end BoxMin
