import BoxMin.Proofs.Binary.Order

set_option autoImplicit false

namespace BoxMin

def AtLeast (l : Float) (r : ℝ) : Prop := ∃ a, Extended.ofFloat l = .finite a ∧ (a : ℝ) ≤ r

def AtMost (u : Float) (r : ℝ) : Prop := ∃ b, Extended.ofFloat u = .finite b ∧ r ≤ (b : ℝ)

/-- A number within the bounds of a coordinate; only finite ones bound anything. -/
structure Within (l u : Float) (r : ℝ) : Prop where
  lower : l.isFinite = true → AtLeast l r
  upper : u.isFinite = true → AtMost u r

/-- A number within the bounds of a coordinate as the solver goes by the code of its kind. -/
structure SeenWithin (k : BoundKind) (lo hi : Float) (r : ℝ) : Prop where
  lower : k.code = 1 ∨ k.code = 2 → AtLeast lo r
  upper : k.code = 2 ∨ k.code = 3 → AtMost hi r

def Feasible (lower upper : List Float) (x : List ℝ) : Prop :=
  ∀ (i : Nat) (l u : Float) (r : ℝ), lower[i]? = some l → upper[i]? = some u → x[i]? = some r →
    Within l u r

def InBox (kinds : List BoundKind) (lo hi : List Float) (x : List ℝ) : Prop :=
  ∀ (i : Nat) (k : BoundKind) (l u : Float) (r : ℝ), kinds[i]? = some k → lo[i]? = some l →
    hi[i]? = some u → x[i]? = some r → SeenWithin k l u r

def EmptyAt (lower upper : List Float) (i : Nat) : Prop :=
  ∃ l u : Float, lower[i]? = some l ∧ upper[i]? = some u ∧ ∀ r, ¬ Within l u r

section Coordinate

variable {l u : Float} {r : ℝ}

theorem BoundKind.code_lower_iff (k : BoundKind) : k.code = 1 ∨ k.code = 2 ↔ k.hasLower = true := by
  cases k <;> decide

theorem BoundKind.code_upper_iff (k : BoundKind) : k.code = 2 ∨ k.code = 3 ↔ k.hasUpper = true := by
  cases k <;> decide

theorem solverBound_of_isFinite (h : l.isFinite = true) : solverBound l = l := if_pos h

theorem seenWithin_iff :
    SeenWithin (.ofBounds l u) (solverBound l) (solverBound u) r ↔ Within l u r := by
  have hlower := (BoundKind.ofBounds l u).code_lower_iff
  have hupper := (BoundKind.ofBounds l u).code_upper_iff
  rw [BoundKind.hasLower_ofBounds] at hlower
  rw [BoundKind.hasUpper_ofBounds] at hupper
  constructor
  · rintro ⟨hl, hu⟩
    refine ⟨fun h => ?_, fun h => ?_⟩
    · simpa only [solverBound_of_isFinite h] using hl (hlower.mpr h)
    · simpa only [solverBound_of_isFinite h] using hu (hupper.mpr h)
  · rintro ⟨hl, hu⟩
    refine ⟨fun h => ?_, fun h => ?_⟩
    · simpa only [solverBound_of_isFinite (hlower.mp h)] using hl (hlower.mp h)
    · simpa only [solverBound_of_isFinite (hupper.mp h)] using hu (hupper.mp h)

theorem exists_within (h : crossed l u = false) : ∃ r, Within l u r := by
  by_cases hl : l.isFinite = true
  · obtain ⟨a, ha⟩ := isFinite_iff.mp hl
    refine ⟨a, fun _ => ⟨a, ha, le_rfl⟩, fun hu => ?_⟩
    obtain ⟨b, hb⟩ := isFinite_iff.mp hu
    have hnot : ¬ u < l := by simpa [crossed, hl, hu] using h
    rw [lt_iff_of_finite hb ha, not_lt] at hnot
    exact ⟨b, hb, by exact_mod_cast hnot⟩
  · by_cases hu : u.isFinite = true
    · obtain ⟨b, hb⟩ := isFinite_iff.mp hu
      exact ⟨b, fun h => absurd h hl, fun _ => ⟨b, hb, le_rfl⟩⟩
    · exact ⟨0, fun h => absurd h hl, fun h => absurd h hu⟩

theorem uncrossed_of_within (h : Within l u r) : crossed l u = false := by
  by_contra hcrossed
  obtain ⟨hl, hu, hlt⟩ : l.isFinite = true ∧ u.isFinite = true ∧ u < l := by
    simpa [crossed] using hcrossed
  obtain ⟨a, ha, har⟩ := h.lower hl
  obtain ⟨b, hb, hrb⟩ := h.upper hu
  have hba : (b : ℝ) < a := by exact_mod_cast (lt_iff_of_finite hb ha).mp hlt
  linarith

theorem forall_not_within_iff : (∀ r, ¬ Within l u r) ↔ crossed l u = true := by
  rw [← not_exists, ← Bool.not_eq_false, not_iff_not]
  exact ⟨fun ⟨_, h⟩ => uncrossed_of_within h, exists_within⟩

end Coordinate

section Vectors

variable {lower upper : List Float}

theorem getElem?_map_zip {β : Type} (f : Float → Float → β) {i : Nat} {l u : Float}
    (hl : lower[i]? = some l) (hu : upper[i]? = some u) :
    ((lower.zip upper).map fun (l, u) => f l u)[i]? = some (f l u) := by
  have hpair : (lower.zip upper)[i]? = some (l, u) := List.getElem?_zip_eq_some.mpr ⟨hl, hu⟩
  rw [List.getElem?_map, hpair, Option.map_some]

theorem inBox_iff {x : List ℝ} :
    InBox ((lower.zip upper).map fun (l, u) => .ofBounds l u) (solverBounds lower)
      (solverBounds upper) x ↔ Feasible lower upper x := by
  constructor
  · intro h i l u r hl hu hr
    have hlo : (solverBounds lower)[i]? = some (solverBound l) := by simp [solverBounds, hl]
    have hhi : (solverBounds upper)[i]? = some (solverBound u) := by simp [solverBounds, hu]
    exact seenWithin_iff.mp (h i _ _ _ r (getElem?_map_zip _ hl hu) hlo hhi hr)
  · intro h i k lo hi r hk hlo hhi hr
    rw [List.getElem?_map, Option.map_eq_some_iff] at hk
    obtain ⟨⟨l, u⟩, hpair, rfl⟩ := hk
    obtain ⟨hl, hu⟩ := List.getElem?_zip_eq_some.mp hpair
    dsimp only at hl hu
    obtain rfl : solverBound l = lo := by simpa [solverBounds, hl] using hlo
    obtain rfl : solverBound u = hi := by simpa [solverBounds, hu] using hhi
    exact seenWithin_iff.mpr (h i l u r hl hu hr)

theorem mem_crossedIndices_iff_emptyAt {i : Nat} :
    i ∈ crossedIndices (lower.zip upper) ↔ EmptyAt lower upper i := by
  simp only [mem_crossedIndices, EmptyAt, forall_not_within_iff, crossed, Bool.and_eq_true,
    decide_eq_true_eq, and_assoc]

/-- The box is empty just where one of its coordinates is. -/
theorem exists_feasible_iff (hlength : lower.length = upper.length) :
    (∃ x : List ℝ, x.length = lower.length ∧ Feasible lower upper x) ↔
      ∀ i, ¬ EmptyAt lower upper i := by
  constructor
  · rintro ⟨x, hx, hfeasible⟩ i ⟨l, u, hl, hu, hempty⟩
    have hi : i < x.length := hx ▸ (List.getElem?_eq_some_iff.mp hl).1
    exact hempty _ (hfeasible i l u _ hl hu (List.getElem?_eq_getElem hi))
  · intro h
    -- in each coordinate some number within its bounds
    refine ⟨(lower.zip upper).map fun (l, u) => Classical.epsilon (Within l u), by simp [hlength],
      ?_⟩
    intro i l u r hl hu hr
    rw [getElem?_map_zip (fun l u => Classical.epsilon (Within l u)) hl hu] at hr
    have hmeet : ¬ ∀ r, ¬ Within l u r := fun hempty => h i ⟨l, u, hl, hu, hempty⟩
    rw [forall_not_within_iff, Bool.not_eq_true] at hmeet
    exact Option.some.inj hr ▸ Classical.epsilon_spec (exists_within hmeet)

theorem checkBounds_eq (hlength : lower.length = upper.length) :
    checkBounds lower upper = match crossedIndices (lower.zip upper) with
      | [] => .ok ()
      | places => .error (.crossedBounds places) := by
  cases hplaces : crossedIndices (lower.zip upper) <;>
    simp only [checkBounds, pairUp?_of_length_eq hlength, hplaces]

theorem checkBounds_eq_ok (hlength : lower.length = upper.length) :
    checkBounds lower upper = .ok () ↔ ∀ i, ¬ EmptyAt lower upper i := by
  simp only [← mem_crossedIndices_iff_emptyAt, ← List.eq_nil_iff_forall_not_mem]
  rw [checkBounds_eq hlength]
  cases crossedIndices (lower.zip upper) <;> simp

/-- The bounds handed to the solver are finite and, with the kinds, describe exactly the vectors
that respect every finite bound. The check passes if there is such a vector, and otherwise names
the coordinates without one, in ascending order. -/
theorem bounds_keep_box (lower upper : List Float) (hlength : lower.length = upper.length) :
    (∃ kinds, encodeBounds lower upper = .ok kinds ∧ kinds.length = lower.length ∧
      (∀ y ∈ solverBounds lower ++ solverBounds upper, y.isFinite = true) ∧
      ∀ x : List ℝ, InBox kinds (solverBounds lower) (solverBounds upper) x ↔
        Feasible lower upper x) ∧
    (checkBounds lower upper = .ok () ↔
      ∃ x : List ℝ, x.length = lower.length ∧ Feasible lower upper x) ∧
    ((¬ ∃ x : List ℝ, x.length = lower.length ∧ Feasible lower upper x) →
      ∃ places, checkBounds lower upper = .error (.crossedBounds places) ∧
        places.Pairwise (· < ·) ∧ ∀ i, i ∈ places ↔ EmptyAt lower upper i) := by
  refine ⟨⟨_, ?_, ?_, ?_, fun x => inBox_iff⟩, ?_, fun hnone => ?_⟩
  · rw [encodeBounds, pairUp?_of_length_eq hlength]
  · simp [hlength]
  · intro y hy
    rcases List.mem_append.mp hy with hy | hy
    · exact isFinite_of_mem_solverBounds hy
    · exact isFinite_of_mem_solverBounds hy
  · rw [checkBounds_eq_ok hlength, exists_feasible_iff hlength]
  · refine ⟨crossedIndices (lower.zip upper), ?_, crossedIndices_sorted _,
      fun i => mem_crossedIndices_iff_emptyAt⟩
    rw [exists_feasible_iff hlength, ← checkBounds_eq_ok hlength, checkBounds_eq hlength] at hnone
    rw [checkBounds_eq hlength]
    cases hplaces : crossedIndices (lower.zip upper) with
    | nil => simp [hplaces] at hnone
    | cons => rfl

def oddLower : List Float := [-1.0 / 0.0, 0.0, 0.0 / 0.0, 3.0, 2.0, 1.0 / 0.0]

def oddUpper : List Float := [1.0 / 0.0, -0.0, 5.0, 0.0 / 0.0, 1.0, -1.0 / 0.0]

theorem odd_bounds_empty_at_four :
    oddLower.length = oddUpper.length ∧ ∀ i, EmptyAt oddLower oddUpper i ↔ i = 4 := by
  have hlength : oddLower.length = oddUpper.length := by decide
  have hcrossed : crossedIndices (oddLower.zip oddUpper) = [4] := by decide +kernel
  obtain ⟨-, hok, hplaces⟩ := bounds_keep_box oddLower oddUpper hlength
  have hcheck : checkBounds oddLower oddUpper = .error (.crossedBounds [4]) := by
    rw [checkBounds_eq hlength, hcrossed]
  rw [hcheck] at hok hplaces
  obtain ⟨places, herror, -, hmem⟩ := hplaces fun hbox => nomatch hok.mpr hbox
  cases herror
  exact ⟨hlength, fun i => by rw [← hmem, List.mem_singleton]⟩

end Vectors

end BoxMin
