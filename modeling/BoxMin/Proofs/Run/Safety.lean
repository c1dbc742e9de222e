import BoxMin.Proofs.Bounds
import BoxMin.Proofs.Extent
import BoxMin.Proofs.Rehearsal

/-!
What a compiled routine can rely on. It writes into areas whose lengths nobody checks again, so at
every call of a run they must be the ones laid down for it, and the bounds and tolerances must be
numbers it can work with.
-/

set_option autoImplicit false

namespace BoxMin

def RoutineCall.codes {n : Nat} (k : RoutineCall) (b : Buffers n) : List Nat :=
  k.query.kinds.map fun kind => (kind.within b.workspace.iwa.element).code

/-- All that a routine for `n` variables takes for granted when it is called. -/
structure RoutineCall.Safe {n : Nat} (k : RoutineCall) (b : Buffers n) : Prop where
  corrections : 0 ≤ k.query.m
  x : b.x.toList.length = n
  g : b.g.toList.length = n
  lower : k.query.lower.length = n
  upper : k.query.upper.length = n
  codes : (k.codes b).length = n
  wa : (b.workspace.wa.size : Int) =
    2 * k.query.m * n + 5 * n + 11 * k.query.m * k.query.m + 8 * k.query.m
  iwa : b.workspace.iwa.size = 3 * n
  lsave : b.workspace.lsave.size = 4
  isave : b.workspace.isave.size = 44
  dsave : b.workspace.dsave.size = 29
  known : ∀ code ∈ k.codes b, code = 0 ∨ code = 1 ∨ code = 2 ∨ code = 3
  lower_finite : ∀ l ∈ k.query.lower, l.isFinite = true
  upper_finite : ∀ u ∈ k.query.upper, u.isFinite = true
  ordered : ∀ (i : Nat) (l u : Float), (k.codes b)[i]? = some 2 → k.query.lower[i]? = some l →
    k.query.upper[i]? = some u → l ≤ u
  factr : 0.0 ≤ k.query.factr ∧ k.query.factr.isNaN = false
  pgtol : 0.0 ≤ k.query.pgtol ∧ k.query.pgtol.isNaN = false

namespace Workspace

structure SameAreas (w w' : Workspace) : Prop where
  wa : w.wa = w'.wa
  iwa : w.iwa = w'.iwa
  lsave : w.lsave = w'.lsave
  isave : w.isave = w'.isave
  dsave : w.dsave = w'.dsave

theorem SameAreas.refl (w : Workspace) : SameAreas w w := ⟨rfl, rfl, rfl, rfl, rfl⟩

theorem SameAreas.trans {u w w' : Workspace} (h : SameAreas u w) (h' : SameAreas w w') :
    SameAreas u w' :=
  ⟨h.wa.trans h'.wa, h.iwa.trans h'.iwa, h.lsave.trans h'.lsave, h.isave.trans h'.isave,
    h.dsave.trans h'.dsave⟩

structure Fits (n m : Nat) (w : Workspace) : Prop where
  wa : (w.wa.size : Int) = waSize n m
  iwa : (w.iwa.size : Int) = iwaSize n
  lsave : w.lsave.size = lsaveSize
  isave : w.isave.size = isaveSize
  dsave : w.dsave.size = dsaveSize

theorem Fits.of_sameAreas {n m : Nat} {w w' : Workspace} (h : Fits n m w) (hw : SameAreas w' w) :
    Fits n m w' where
  wa := by rw [hw.wa]; exact h.wa
  iwa := by rw [hw.iwa]; exact h.iwa
  lsave := by rw [hw.lsave]; exact h.lsave
  isave := by rw [hw.isave]; exact h.isave
  dsave := by rw [hw.dsave]; exact h.dsave

theorem fits_of_allocate {n m : Nat} {element : ElementType} {textTask : Bool} {w : Workspace}
    (h : allocate (n : Int) (m : Int) element textTask = .ok w) : Fits n m w := by
  unfold allocate at h
  obtain ⟨wa, hwa, h⟩ := exists_of_bind_ok h
  obtain ⟨iwa, hiwa, h⟩ := exists_of_bind_ok h
  have hwa := (Area.ofLength_computed (Operand.waSize_plain n m)).mp hwa
  have hiwa := (Area.ofLength_computed (Operand.iwaSize_plain n)).mp hiwa
  have hn : (0 : Int) ≤ n := Int.natCast_nonneg n
  have hm : (0 : Int) ≤ m := Int.natCast_nonneg m
  have hiwaSize : 0 ≤ BoxMin.iwaSize n := by unfold BoxMin.iwaSize; omega
  cases h
  exact
    { wa := Area.size_ofLength (waSize_nonneg hn hm) hwa
      iwa := Area.size_ofLength hiwaSize hiwa
      lsave := rfl
      isave := rfl
      dsave := rfl }

end Workspace

variable {σ : Type}

/-- A routine that writes entries of point, gradient and work areas, and moves no area. -/
def Routine.WritesEntries (r : Routine σ) : Prop :=
  ∀ {n : Nat} (k : RoutineCall) (b : Buffers n) (s : σ),
    Workspace.SameAreas (r.call k b s).1.workspace b.workspace

namespace RunState

variable {n : Nat} {c : Client σ} {r : Routine σ} {a : Adapter} {p : Problem} {s u : RunState σ n}

theorem told_workspace : (s.told (a.solver r) p).workspace =
    (r.call (a.routineCall (s.query p)) s.buffers s.shared.memory).1.workspace := by
  unfold told callSolver
  simp only [Adapter.solver, Adapter.step]
  rcases r.call (a.routineCall (s.query p)) s.buffers s.shared.memory with ⟨b, memory, e | ok⟩ <;>
    rfl

theorem answered_workspace {t : RunState σ n} (h : Answered c p t u) :
    u.workspace = t.workspace := by
  cases h <;> rfl

theorem areas_invariant (hr : r.WritesEntries) (w : Workspace) :
    Invariant (n := n) c (a.solver r) p fun _ s => Workspace.SameAreas s.workspace w where
  answered h _ hu := by
    rw [answered_workspace hu, told_workspace]
    exact (hr _ _ _).trans h
  logged _ h := h

end RunState

theorem within_code_eq_two {element : ElementType} {kind : BoundKind}
    (h : (kind.within element).code = 2) : kind = .both := by
  unfold BoundKind.within at h
  cases kind <;> split at h <;> simp_all [BoundKind.code]

namespace Starts

variable {v : Solver σ} {fcn lower upper : Value} {opts : Option Value} {watched : Bool}
  {cancel : Cancellation} {memory : σ} {a : Checked} {q : Prepared σ}

theorem query_eq (h : Starts v fcn lower upper opts watched cancel memory a q)
    (s : RunState σ q.n) :
    s.query q.problem =
      { m := a.options.m
        lower := solverBounds a.lower
        upper := solverBounds a.upper
        kinds := (a.lower.zip a.upper).map fun (l, u) => .ofBounds l u
        f := s.f
        factr := a.options.factr
        pgtol := a.options.pgtol } := by
  obtain ⟨-, hlower, hupper, hkinds, -⟩ := h.arguments
  obtain ⟨hlowerLength, hupperLength, -⟩ := h.vectors
  obtain ⟨-, hsettings, -, -⟩ := h.fresh
  have hkinds := encodeBounds_ok (hlowerLength.trans hupperLength.symm) hkinds
  simp only [RunState.query, hlower, hupper, hkinds, hsettings]
  rfl

theorem bounds_ordered (h : Starts v fcn lower upper opts watched cancel memory a q) {i : Nat}
    {l u : Float}
    (hkind : ((a.lower.zip a.upper).map fun (l, u) => BoundKind.ofBounds l u)[i]? = some .both)
    (hl : (solverBounds a.lower)[i]? = some l) (hu : (solverBounds a.upper)[i]? = some u) :
    l ≤ u := by
  obtain ⟨hlowerLength, hupperLength, hcrossed⟩ := h.vectors
  rw [List.getElem?_map, Option.map_eq_some_iff] at hkind
  obtain ⟨⟨l₀, u₀⟩, hpair, hboth⟩ := hkind
  obtain ⟨hl₀, hu₀⟩ := List.getElem?_zip_eq_some.mp hpair
  rw [solverBounds, List.getElem?_map, hl₀] at hl
  rw [solverBounds, List.getElem?_map, hu₀] at hu
  cases hl
  cases hu
  exact solverBound_le hboth (uncrossed_of_checkBounds (hlowerLength.trans hupperLength.symm)
    hcrossed (List.mem_of_getElem? hpair))

end Starts

/-- At every call of the routine, arrays have the lengths laid down for it, codes are known ones,
bounds are finite and in order, and tolerances are not negative and not NaN. -/
theorem routine_called_safely {c : Client σ} {r : Routine σ} {ad : Adapter}
    {fcn lower upper : Value} {opts : Option Value} {watched : Bool} {cancel : Cancellation}
    {memory : σ} {a : Checked} {q : Prepared σ} (hr : r.WritesEntries)
    (h : Starts (ad.solver r) fcn lower upper opts watched cancel memory a q) :
    q.n = a.x0.length ∧
    ∀ past s rest, q.turns c (ad.solver r) = past ++ s :: rest →
      (ad.routineCall (s.query q.problem)).Safe s.buffers := by
  obtain ⟨hn, -, -, -, hworkspace⟩ := h.arguments
  obtain ⟨hlower, hupper, -⟩ := h.vectors
  obtain ⟨hfactr, hpgtol⟩ := h.tolerances
  have hfits : q.opened.workspace.Fits q.n a.options.m :=
    hn.symm.subst (motive := fun n => q.opened.workspace.Fits n a.options.m)
      (Workspace.fits_of_allocate hworkspace)
  refine ⟨hn, fun past s rest hturns => ?_⟩
  obtain ⟨hcourse, -⟩ := h.course hturns
  have hareas := (RunState.areas_invariant hr q.opened.workspace).course (.refl _) hcourse
  have hs := hfits.of_sameAreas hareas
  have hk : (ad.routineCall (s.query q.problem)).query = _ := h.query_eq s
  exact
    { corrections := by rw [hk]; exact Int.natCast_nonneg _
      x := s.buffers.x.length_toList
      g := s.buffers.g.length_toList
      lower := by rw [hk]; simpa using hlower
      upper := by rw [hk]; simpa using hupper
      codes := by simp [RoutineCall.codes, hk, hlower, hupper]
      wa := by rw [hk]; exact hs.wa
      iwa := by
        have hiwa : (s.workspace.iwa.size : Int) = 3 * q.n := hs.iwa
        show s.workspace.iwa.size = 3 * q.n
        omega
      lsave := hs.lsave
      isave := hs.isave
      dsave := hs.dsave
      known := by
        intro code hcode
        obtain ⟨kind, -, rfl⟩ := List.mem_map.mp hcode
        cases kind.within s.buffers.workspace.iwa.element <;> simp [BoundKind.code]
      lower_finite := by rw [hk]; exact fun l hl => isFinite_of_mem_solverBounds hl
      upper_finite := by rw [hk]; exact fun u hu => isFinite_of_mem_solverBounds hu
      ordered := by
        intro i l u hcode hl hu
        rw [RoutineCall.codes, List.getElem?_map, Option.map_eq_some_iff] at hcode
        obtain ⟨kind, hkind, htwo⟩ := hcode
        rw [within_code_eq_two htwo] at hkind
        rw [hk] at hkind hl hu
        exact h.bounds_ordered hkind hl hu
      factr := by rw [hk]; exact ⟨hfactr, isNaN_of_le hfactr⟩
      pgtol := by rw [hk]; exact ⟨hpgtol, isNaN_of_le hpgtol⟩ }

section Rehearsed

theorem Workspace.store_sameAreas (w : Workspace) (stored : Stored) :
    SameAreas (w.store stored) w := by
  cases stored <;> exact ⟨rfl, rfl, rfl, rfl, rfl⟩

theorem Script.routine_writesEntries (s : Script Stored) : s.routine.WritesEntries := by
  intro n k b m
  rw [routine_call_eq]
  cases ((s.next m).1.make b).2 with
  | error e => exact (s.next m).1.make_workspace b ▸ .refl _
  | ok => exact b.workspace.store_sameAreas (s.next m).2

def spokenScript : Script Stored where
  entries := #[({ set := some [1.0] }, .text (textBytes "FG_START") none),
    ({}, .text (textBytes "NEW_X") none)]
  after := ({}, .text (textBytes "ABNORMAL") none)

def spokenAdapter : Adapter := { protocol := .text .int64 }

def mixedLower : Value :=
  .list [.float (-1.0 / 0.0), .float 0.0, .float 2.0, .float (0.0 / 0.0)]

def mixedUpper : Value :=
  .list [.float (1.0 / 0.0), .float (0.0 / 0.0), .float 5.0, .float 5.0]

def codesRead (q : Prepared Memory) : List (List Nat) :=
  (q.turns (Cast.client ⟨#[.squares]⟩) (spokenAdapter.solver spokenScript.routine)).map fun s =>
    (spokenAdapter.routineCall (s.query q.problem)).codes s.buffers

abbrev Speaks (a : Checked) (q : Prepared Memory) : Prop :=
  Starts (spokenAdapter.solver spokenScript.routine) (.callable ⟨0, "f", false⟩) mixedLower
    mixedUpper (some (.mapping [(.text "m", .int 0)])) true {} {} a q

/-- Even so its second call, after an evaluation, is a safe one. -/
theorem routine_called_safely_without_corrections :
    ∃ (a : Checked) (q : Prepared Memory) (past rest : List (RunState Memory q.n))
      (s : RunState Memory q.n), Speaks a q ∧ a.options.m = 0 ∧ a.x0.length = 4 ∧
      q.turns (Cast.client ⟨#[.squares]⟩) (spokenAdapter.solver spokenScript.routine) =
        past ++ s :: rest ∧ past.length = 1 ∧
      (spokenAdapter.routineCall (s.query q.problem)).Safe s.buffers ∧
      (spokenAdapter.routineCall (s.query q.problem)).codes s.buffers = [0, 1, 2, 3] := by
  obtain ⟨a, q, hstarts, htest⟩ : ∃ a q, Speaks a q ∧
      (decide (a.options.m = 0) && decide (a.x0.length = 4) &&
        decide (codesRead q = [[0, 1, 2, 3], [0, 1, 2, 3], [0, 1, 2, 3]])) = true :=
    Starts.of_test (by decide +kernel)
  simp only [Bool.and_eq_true, decide_eq_true_eq] at htest
  obtain ⟨⟨hm, hn⟩, hcodes⟩ := htest
  -- codes are read three times, so there is a second call
  obtain ⟨s₀, ts, hts, -, hrest⟩ := List.map_eq_cons_iff.mp hcodes
  obtain ⟨s, rest, rfl, hs, -⟩ := List.map_eq_cons_iff.mp hrest
  obtain ⟨-, hsafe⟩ := routine_called_safely (c := Cast.client ⟨#[.squares]⟩)
    spokenScript.routine_writesEntries hstarts
  exact ⟨a, q, [s₀], rest, s, hstarts, hm, hn, hts, rfl, hsafe [s₀] s rest hts, hs⟩

end Rehearsed

end BoxMin
