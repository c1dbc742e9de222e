import BoxMin.Journal
import BoxMin.Proofs.Run.Reaching
import BoxMin.Proofs.Run.Simulation

/-!
The calls of a run, written down. Next to the memory of solver and client a list of events is kept,
to which each call is added; nothing is ever taken out of it, so the calls made so far begin the
calls made in the end.
-/

set_option autoImplicit false

namespace BoxMin

structure Journaled (σ : Type) where
  memory : σ
  events : List Event := []

variable {σ : Type} {n : Nat}

def Journaled.note (e : Event) (t : Journaled σ) : Journaled σ :=
  { t with events := t.events ++ [e] }

def Client.carried (c : Client σ) : Client (Journaled σ) where
  call f s :=
    let (t, answer) := c.call f { s with memory := s.memory.memory }
    ({ t with memory := { s.memory with memory := t.memory } }, answer)

def Solver.carried (v : Solver σ) : Solver (Journaled σ) where
  allocate n m t :=
    let (memory, answer) := v.allocate n m t.memory
    ({ t with memory }, answer)
  step q b t :=
    let (b, memory, answer) := v.step q b t.memory
    (b, { t with memory }, answer)
  message w t := v.message w t.memory

def Client.journaled (c : Client σ) : Client (Journaled σ) := c.carried.noting Journaled.note

def Solver.journaled (v : Solver σ) : Solver (Journaled σ) := v.carried.noting Journaled.note

section Erasure

variable {v : Solver σ}

theorem Client.journaled_simulates (c : Client σ) (f : Callable) :
    c.journaled.Simulates (fun t m => t.memory = m) c f := by
  rintro n a m rfl
  exact ⟨_, rfl, rfl⟩

theorem Solver.carried_simulates (v : Solver σ) :
    v.carried.Simulates (fun t m => t.memory = m) v where
  allocate n k t m hm := by
    subst hm
    exact ⟨_, rfl, rfl⟩
  step q b t m hm := by
    subst hm
    exact ⟨_, rfl, rfl⟩
  message w t m hm := by
    subst hm
    rfl

theorem Solver.journaled_simulates (v : Solver σ) :
    v.journaled.Simulates (fun t m => t.memory = m) v where
  allocate n k t m hm := by
    subst hm
    refine ⟨_, ?_, rfl⟩
    rcases hw : v.allocate n k t.memory with ⟨memory, e | w⟩ <;>
      simp [Solver.journaled, Solver.noting, Solver.carried, Journaled.note, hw]
  step q b t m hm := by
    subst hm
    exact ⟨_, rfl, rfl⟩
  message w t m hm := by
    subst hm
    rfl

/-- A solver that keeps a list of events beside the memory of another one, and answers alike, makes
the same runs. -/
theorem minimize_beside (c : Client σ) {w : Solver (Journaled σ)}
    (hw : w.Simulates (fun t m => t.memory = m) v) (fcn lower upper : Value) (opts : Option Value)
    (watched : Bool) (cancel : Cancellation) (memory : σ) :
    (minimize c.journaled w fcn lower upper opts watched cancel { memory }).holding
        (minimize c.journaled w fcn lower upper opts watched cancel { memory }).memory.memory =
      minimize c v fcn lower upper opts watched cancel memory := by
  obtain ⟨m, hsame, rfl⟩ := minimize_simulates c.journaled_simulates hw fcn lower upper opts
    watched cancel { memory } memory rfl
  exact hsame.symm

theorem minimize_journaled (c : Client σ) {w : Solver (Journaled σ)}
    (hw : w = v.carried ∨ w = v.journaled) (fcn lower upper : Value) (opts : Option Value)
    (watched : Bool) (cancel : Cancellation) (memory : σ) :
    (minimize c.journaled w fcn lower upper opts watched cancel { memory }).holding
        (minimize c.journaled w fcn lower upper opts watched cancel { memory }).memory.memory =
      minimize c v fcn lower upper opts watched cancel memory := by
  have hsolver : w.Simulates (fun t m => t.memory = m) v := by
    obtain rfl | rfl := hw
    · exact v.carried_simulates
    · exact v.journaled_simulates
  exact minimize_beside c hsolver fcn lower upper opts watched cancel memory

end Erasure

/-- The calls of solver, evaluator and diagnostics that a run makes, in order, with what they are
shown. -/
def calls (c : Client σ) (v : Solver σ) (fcn lower upper : Value) (opts : Option Value)
    (watched : Bool) (cancel : Cancellation) (memory : σ) : List Event :=
  (minimize c.journaled v.journaled fcn lower upper opts watched cancel { memory }).memory.events

def clientCalls (c : Client σ) (v : Solver σ) (fcn lower upper : Value) (opts : Option Value)
    (watched : Bool) (cancel : Cancellation) (memory : σ) : List Event :=
  (minimize c.journaled v.carried fcn lower upper opts watched cancel { memory }).memory.events

/-- An order of memories that no call of client or solver goes down. -/
structure Ascending (c : Client σ) (v : Solver σ) (le : σ → σ → Prop) : Prop where
  refl : ∀ m, le m m
  trans : ∀ {a b d}, le a b → le b d → le a d
  call : ∀ {n : Nat} (f : Callable) (s : Shared σ n), le s.memory (c.call f s).1.memory
  step : ∀ {n : Nat} (q : Query) (b : Buffers n) (m : σ), le m (v.step q b m).2.1

theorem Client.journaled_ascending (c : Client σ) (v : Solver σ) :
    Ascending c.journaled v.journaled fun t u => t.events <+: u.events where
  refl _ := List.prefix_refl _
  trans := List.IsPrefix.trans
  call _ _ := List.prefix_append _ _
  step _ _ _ := List.prefix_append _ _

namespace Ascending

variable {c : Client σ} {v : Solver σ} {p : Problem} {le : σ → σ → Prop}

theorem le_of_reaches (h : Ascending c v le) {k k' : Cancellation} {m m' : σ}
    (hr : Reaches c v k m k' m') : le m m' := by
  induction hr with
  | refl => exact h.refl _
  | call f _ ih => exact h.trans ih (h.call f _)
  | step q b _ ih => exact h.trans ih (h.step q b _)

/-- `t` comes after `s`: memory has not gone down and the record has lost no row. -/
def Before (le : σ → σ → Prop) (s t : RunState σ n) : Prop :=
  le s.shared.memory t.shared.memory ∧ s.history.toList <+: t.history.toList

variable {s t u : RunState σ n}

theorem before_refl (h : Ascending c v le) (s : RunState σ n) : Before le s s :=
  ⟨h.refl _, List.prefix_refl _⟩

theorem before_trans (h : Ascending c v le) (hst : Before le s t) (htu : Before le t u) :
    Before le s u :=
  ⟨h.trans hst.1 htu.1, hst.2.trans htu.2⟩

theorem loop (h : Ascending c v le) (limit : Int) (k : Nat) (s : RunState σ n) :
    Before le s (RunState.loop c v p limit k s).1 := by
  have hleads : s.Leads c v (RunState.loop c v p limit k s).1 := RunState.leads_loop limit k s
  exact ⟨h.le_of_reaches hleads.shared, hleads.rows⟩

end Ascending

end BoxMin
