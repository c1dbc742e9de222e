import BoxMin.Bounds

set_option autoImplicit false

namespace BoxMin

section Order

open Float.Model

theorem compare_then_swap (m n : Nat) (d e : Int) :
    (compare d e).then (compare m n) = ((compare e d).then (compare n m)).swap := by
  rw [Ordering.swap_then, ← Std.OrientedOrd.eq_swap, ← Std.OrientedOrd.eq_swap]

theorem exists_compare {a b : UnpackedFloat} (ha : a.isFinite = true) (hb : b.isFinite = true) :
    ∃ o, b.compare a = some o ∧ a.compare b = some o.swap := by
  cases a with
  | infinity | notANumber => cases ha
  | zero s =>
    cases b with
    | infinity | notANumber => cases hb
    | zero t => exact ⟨_, rfl, rfl⟩
    | finite t n e hn => cases t <;> exact ⟨_, rfl, rfl⟩
  | finite s m d hm =>
    cases b with
    | infinity | notANumber => cases hb
    | zero t => cases s <;> exact ⟨_, rfl, rfl⟩
    | finite t n e hn =>
      have hswap := compare_then_swap m n d e
      cases s <;> cases t
      · exact ⟨_, rfl, congrArg some (congrArg Ordering.swap hswap)⟩
      · exact ⟨_, rfl, rfl⟩
      · exact ⟨_, rfl, rfl⟩
      · exact ⟨_, rfl, congrArg some hswap⟩

theorem le_of_finite_of_not_lt {x y : Float} (hx : x.isFinite = true) (hy : y.isFinite = true)
    (h : ¬ y < x) : x ≤ y := by
  obtain ⟨o, hyx, hxy⟩ := exists_compare hx hy
  refine decide_eq_true (p := x.toModel ≤ y.toModel) ?_
  show x.toModel.unpack.le y.toModel.unpack = true
  have hlt : ¬ y.toModel.unpack.lt x.toModel.unpack = true := fun hlt => h (decide_eq_true hlt)
  rw [UnpackedFloat.lt, hyx] at hlt
  rw [UnpackedFloat.le, hxy]
  cases o <;> simp_all

theorem le_notANumber (a : UnpackedFloat) : a.le .notANumber = false := by
  cases a <;> rfl

theorem isNaN_of_le {x y : Float} (h : x ≤ y) : y.isNaN = false := by
  have hle : x.toModel.unpack.le y.toModel.unpack = true := of_decide_eq_true h
  show y.toModel.unpack.isNaN = false
  cases hy : y.toModel.unpack with
  | notANumber =>
    rw [hy, le_notANumber] at hle
    cases hle
  | _ => rfl

end Order

theorem isFinite_solverBound (x : Float) : (solverBound x).isFinite = true := by
  unfold solverBound
  split
  · assumption
  · decide +kernel

theorem isFinite_of_mem_solverBounds {xs : List Float} {y : Float} (h : y ∈ solverBounds xs) :
    y.isFinite = true := by
  obtain ⟨x, -, rfl⟩ := List.mem_map.mp h
  exact isFinite_solverBound x

theorem BoundKind.ofBounds_eq_both {l u : Float} (h : ofBounds l u = .both) :
    l.isFinite = true ∧ u.isFinite = true := by
  constructor
  · rw [← hasLower_ofBounds l u, h]; rfl
  · rw [← hasUpper_ofBounds l u, h]; rfl

theorem encodeBounds_ok {lower upper : List Float} {kinds : List BoundKind}
    (hlength : lower.length = upper.length) (h : encodeBounds lower upper = .ok kinds) :
    kinds = (lower.zip upper).map fun (l, u) => .ofBounds l u := by
  rw [encodeBounds, pairUp?_of_length_eq hlength] at h
  exact (Except.ok.inj h).symm

theorem uncrossed_of_checkBounds {lower upper : List Float} (hlength : lower.length = upper.length)
    (h : checkBounds lower upper = .ok ()) {l u : Float} (hmem : (l, u) ∈ lower.zip upper) :
    crossed l u = false := by
  rw [checkBounds, pairUp?_of_length_eq hlength] at h
  dsimp only at h
  split at h
  · rename_i hnone
    obtain ⟨i, hi⟩ := List.mem_iff_getElem?.mp hmem
    rw [crossedIndices, List.map_eq_nil_iff, List.filter_eq_nil_iff] at hnone
    simpa using hnone ((l, u), i) (List.mk_mem_zipIdx_iff_getElem?.mpr hi)
  · cases h

theorem solverBound_le {l u : Float} (hkind : BoundKind.ofBounds l u = .both)
    (h : crossed l u = false) : solverBound l ≤ solverBound u := by
  obtain ⟨hl, hu⟩ := BoundKind.ofBounds_eq_both hkind
  have hnot : ¬ u < l := by simpa [crossed, hl, hu] using h
  simpa [solverBound, hl, hu] using le_of_finite_of_not_lt hl hu hnot

theorem crossedIndices_sorted (pairs : List (Float × Float)) :
    (crossedIndices pairs).Pairwise (· < ·) := by
  have hall : (pairs.zipIdx.map (·.2)).Pairwise (· < ·) := by
    rw [List.zipIdx_map_snd]
    exact List.pairwise_lt_range'
  exact hall.sublist (List.filter_sublist.map _)

theorem mem_crossedIndices {lower upper : List Float} {i : Nat} :
    i ∈ crossedIndices (lower.zip upper) ↔ ∃ l u : Float, lower[i]? = some l ∧
      upper[i]? = some u ∧ l.isFinite = true ∧ u.isFinite = true ∧ u < l := by
  have hcrossed (l u : Float) : crossed l u = true ↔
      l.isFinite = true ∧ u.isFinite = true ∧ u < l := by
    simp [crossed, and_assoc]
  rw [crossedIndices, List.mem_map]
  constructor
  · rintro ⟨⟨⟨l, u⟩, i⟩, hmem, rfl⟩
    obtain ⟨hplace, hbad⟩ := List.mem_filter.mp hmem
    obtain ⟨hl, hu⟩ := List.getElem?_zip_eq_some.mp (List.mk_mem_zipIdx_iff_getElem?.mp hplace)
    exact ⟨l, u, hl, hu, (hcrossed l u).mp hbad⟩
  · rintro ⟨l, u, hl, hu, hbad⟩
    have hplace : ((l, u), i) ∈ (lower.zip upper).zipIdx :=
      List.mk_mem_zipIdx_iff_getElem?.mpr (List.getElem?_zip_eq_some.mpr ⟨hl, hu⟩)
    exact ⟨((l, u), i), List.mem_filter.mpr ⟨hplace, (hcrossed l u).mpr hbad⟩, rfl⟩

end BoxMin
