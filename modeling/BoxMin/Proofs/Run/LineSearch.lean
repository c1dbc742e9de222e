import BoxMin.Proofs.Run.Backends
import BoxMin.Proofs.WholeParts

set_option autoImplicit false

namespace BoxMin

namespace Event

def routine? : Event → Option RoutineCall
  | .routine k _ => some k
  | _ => none

end Event

variable {σ : Type} {n : Nat}

def Routine.journaled (r : Routine σ) : Routine (Journaled σ) := r.carried.noting Journaled.note

def Journaled.routineCalls (t : Journaled σ) : List RoutineCall := t.events.filterMap Event.routine?

theorem Journaled.routineCalls_note (e : Event) (t : Journaled σ) :
    (t.note e).routineCalls = t.routineCalls ++ e.routine?.toList := by
  rw [routineCalls, note, List.filterMap_append]
  cases e <;> rfl

section Calls

variable {a : Adapter} {r : Routine σ} {c : Client σ} {k k' : Cancellation} {t u : Journaled σ}

theorem Client.routineCalls_journaled (c : Client σ) (f : Callable) (s : Shared (Journaled σ) n) :
    (c.journaled.call f s).1.memory.routineCalls = s.memory.routineCalls :=
  (s.memory.routineCalls_note (.call f s.x.toList)).trans (List.append_nil _)

theorem Adapter.step_journaled (a : Adapter) (r : Routine σ) (q : Query) (b : Buffers n)
    (t : Journaled σ) : (a.solver r.journaled).step q b t =
      let (b', memory, answer) := (a.solver r).step q b t.memory
      (b', { t.note (.routine (a.routineCall q) b.workspace.task) with memory }, answer) := by
  simp only [solver, step, Routine.journaled, Routine.noting, Routine.carried, Journaled.note]
  rcases hcall : r.call (a.routineCall q) b t.memory with ⟨b', memory, e | ok⟩ <;>
    simp only [hcall]

theorem Adapter.routineCalls_step (a : Adapter) (r : Routine σ) (q : Query) (b : Buffers n)
    (t : Journaled σ) : ((a.solver r.journaled).step q b t).2.1.routineCalls =
      t.routineCalls ++ [a.routineCall q] := by
  rw [a.step_journaled]
  exact t.routineCalls_note _

theorem Adapter.journaled_simulates (a : Adapter) (r : Routine σ) :
    (a.solver r.journaled).Simulates (fun t m => t.memory = m) (a.solver r) where
  allocate n k s m hm := ⟨m, rfl, hm⟩
  step q b s m hm := by
    subst hm
    rw [a.step_journaled]
    exact ⟨_, rfl, rfl⟩
  message _ _ _ _ := rfl

theorem Reaches.routineCalls_maxls
    (h : Reaches c.journaled (a.solver r.journaled) k t k' u)
    (ht : ∀ call ∈ t.routineCalls, call.maxls = a.maxls) :
    ∀ call ∈ u.routineCalls, call.maxls = a.maxls := by
  induction h with
  | refl => exact ht
  | call f _ ih => rwa [Client.routineCalls_journaled]
  | step q b _ ih =>
    rw [Adapter.routineCalls_step, List.forall_mem_append, List.forall_mem_singleton]
    exact ⟨ih, rfl⟩

theorem Adapter.minimize_journaled (a : Adapter) (r : Routine σ) (c : Client σ)
    (fcn lower upper : Value) (opts : Option Value) (watched : Bool) (cancel : Cancellation)
    (memory : σ) :
    let o := minimize c.journaled (a.solver r.journaled) fcn lower upper opts watched cancel
      { memory }
    o.holding o.memory.memory =
      minimize c (a.solver r) fcn lower upper opts watched cancel memory :=
  minimize_beside c (a.journaled_simulates r) fcn lower upper opts watched cancel memory

theorem Adapter.minimize_reaches (a : Adapter) (r : Routine σ) (c : Client σ)
    (fcn lower upper : Value) (opts : Option Value) (watched : Bool) (cancel : Cancellation)
    (memory : σ) :
    Reaches c (a.solver r) cancel memory
      (minimize c (a.solver r) fcn lower upper opts watched cancel memory).cancel
      (minimize c (a.solver r) fcn lower upper opts watched cancel memory).memory := by
  obtain ⟨left, rfl | ⟨n, m, rfl⟩, hreaches⟩ :=
    BoxMin.minimize_reaches c (a.solver r) fcn lower upper opts watched cancel memory
  -- an adapter makes the work areas itself, so asking for them leaves the memory alone
  · exact hreaches
  · exact hreaches

end Calls

theorem Adapter.ofValues_eq_ok {protocol : Protocol} {maxls iprint : Value} {a : Adapter} :
    ofValues protocol maxls iprint = .ok a ↔ maxls.atMostZero = .ok false ∧
      maxls.toWhole = .ok a.maxls ∧ iprint.toWhole = .ok a.iprint ∧ a.protocol = protocol := by
  obtain ⟨protocol', k, j⟩ := a
  unfold ofValues
  rcases maxls.atMostZero with f | _ | _
  · exact iff_of_false nofun nofun
  · rcases maxls.toWhole with f | k'
    · exact iff_of_false nofun nofun
    · rcases iprint.toWhole with f | j'
      · exact iff_of_false nofun nofun
      · change Except.ok (⟨protocol, k', j'⟩ : Adapter) = .ok ⟨protocol', k, j⟩ ↔ _
        simp only [Except.ok.injEq, Adapter.mk.injEq, true_and]
        exact ⟨fun ⟨h, hk, hj⟩ => ⟨hk, hj, h.symm⟩, fun ⟨hk, hj, h⟩ => ⟨h.symm, hk, hj⟩⟩
  · exact iff_of_false nofun nofun

/-- A numeric limit that is accepted is told to the routine as its whole part, which is positive
exactly if the limit is at least one. Between zero and one a limit is accepted, and told as zero. -/
theorem line_search_limit_positive_iff (protocol : Protocol) (v iprint : Value)
    (hv : v.IsNumeric) :
    (∀ a, Adapter.ofValues protocol v iprint = .ok a → ∃ x, v.part? = some x ∧ 0 ≤ x ∧
      ∀ {σ : Type} (c : Client σ) (r : Routine σ) (k k' : Cancellation) (memory : σ)
        (t : Journaled σ), Reaches c.journaled (a.solver r.journaled) k { memory } k' t →
          ∀ call ∈ t.routineCalls, call.maxls = ⌊x⌋ ∧ (1 ≤ call.maxls ↔ 1 ≤ x)) ∧
      ∀ x j, v.part? = some x → 0 < x → x < 1 → iprint.toWhole = .ok j →
        Adapter.ofValues protocol v iprint = .ok ⟨protocol, 0, j⟩ := by
  have hwhole := hv.truncates
  constructor
  · intro a ha
    obtain ⟨hpositive, hmaxls, -, -⟩ := Adapter.ofValues_eq_ok.mp ha
    rw [hmaxls] at hwhole
    cases hpart : v.part? with
    | none => simp [hpart, Truncates] at hwhole
    | some x =>
      obtain ⟨b, hb, -, hnonneg⟩ := hv.exists_atMostZero hpart
      have hx : 0 ≤ x := hnonneg (Except.ok.inj (hb.symm.trans hpositive))
      have hfloor : a.maxls = ⌊x⌋ := by
        rw [← truncate_of_nonneg hx]
        simpa [hpart, Truncates] using hwhole
      refine ⟨x, rfl, hx, fun c r k k' memory t hreaches call hcall => ?_⟩
      have hlimit : call.maxls = ⌊x⌋ := by
        rw [hreaches.routineCalls_maxls nofun call hcall, hfloor]
      exact ⟨hlimit, hlimit ▸ Int.floor_pos⟩
  · intro x j hpart hpos hless hj
    obtain ⟨b, hb, hfalse, -⟩ := hv.exists_atMostZero hpart
    have habs : |x| < 1 := by rwa [abs_of_pos hpos]
    rw [hpart] at hwhole
    obtain hwhole | ⟨hlarge, -⟩ := hwhole
    · rw [truncate_of_abs_lt_one habs] at hwhole
      exact Adapter.ofValues_eq_ok.mpr ⟨hfalse hpos ▸ hb, hwhole, hj, rfl⟩
    · exact absurd habs (not_lt.mpr hlarge)

def rehearseLimits (a : Adapter) : Outcome (Journaled Memory) :=
  minimize (Cast.client ⟨#[.squares]⟩).journaled
    (a.solver (agreedScript.map Report.codes).routine.journaled) (.callable ⟨0, "f", false⟩)
    (.list [.float (-4.0)]) (.list [.float 4.0]) none true {} { memory := {} }

theorem decimal_limit_told_as_two :
    let v := Value.decimal (.finite false ⟨29, -1⟩)
    v.IsNumeric ∧ ∃ a, Adapter.ofValues .codes v (.int (-1)) = .ok a ∧
      (rehearseLimits a).memory.routineCalls.length = 3 ∧
      ∀ call ∈ (rehearseLimits a).memory.routineCalls, call.maxls = 2 ∧ 1 ≤ call.maxls := by
  intro v
  refine ⟨trivial, ⟨.codes, 2, -1⟩, by rfl, by decide +kernel, fun call hcall => ?_⟩
  obtain ⟨htold, -⟩ := line_search_limit_positive_iff .codes v (.int (-1)) trivial
  obtain ⟨x, hx, -, hcalls⟩ := htold ⟨.codes, 2, -1⟩ (by rfl)
  have hvalue : x = 29 * 10 ^ (-1 : Int) := (Option.some.inj hx).symm
  obtain ⟨hlimit, hpositive⟩ := hcalls _ _ _ _ _ _ (Adapter.minimize_reaches ..) call hcall
  have hfloor : ⌊x⌋ = 2 := by
    rw [hvalue, Int.floor_eq_iff]
    norm_num
  exact ⟨hlimit.trans hfloor, hpositive.mpr (by rw [hvalue]; norm_num)⟩

/-- A limit of one half is accepted, and told as zero in each of three calls. -/
theorem half_limit_told_as_zero :
    Adapter.ofValues .codes (.float 0.5) (.int (-1)) = .ok ⟨.codes, 0, -1⟩ ∧
      (rehearseLimits ⟨.codes, 0, -1⟩).memory.routineCalls.map (·.maxls) = [0, 0, 0] := by
  exact ⟨by rfl, by decide +kernel⟩

end BoxMin
