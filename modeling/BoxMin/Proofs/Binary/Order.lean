import BoxMin.Proofs.Binary.Nearest
import BoxMin.Proofs.Bounds

set_option autoImplicit false

namespace BoxMin

open Float.Model (UnpackedFloat)

section Dyadics

variable {fmt : Format} {m m' : Nat} {q q' : Int}

theorem Format.Has.dyadic_lt_of_exponent_lt (h : fmt.Has m q) (h' : fmt.Has m' q')
    (hprec : 0 < fmt.precision) (hlt : q < q') : dyadic m q < dyadic m' q' := by
  have hfull : 2 ^ (fmt.precision - 1) ≤ m' := h'.full (h.minExp_le.trans_lt hlt)
  refine (h.dyadic_lt_full hprec hlt).trans_le (not_lt.mp ?_)
  rw [dyadic_lt_dyadic]
  omega

theorem Format.Has.dyadic_lt_iff (h : fmt.Has m q) (h' : fmt.Has m' q')
    (hprec : 0 < fmt.precision) : dyadic m q < dyadic m' q' ↔ q < q' ∨ q = q' ∧ m < m' := by
  rcases lt_trichotomy q q' with hlt | rfl | hlt
  · simp [hlt, h.dyadic_lt_of_exponent_lt h' hprec hlt]
  · simp [dyadic_lt_dyadic]
  · have hgt := h'.dyadic_lt_of_exponent_lt h hprec hlt
    simp [hgt.not_gt, hlt.not_gt, hlt.ne']

theorem then_compare_eq_lt :
    (compare q q').then (compare m m') = .lt ↔ q < q' ∨ q = q' ∧ m < m' := by
  rw [Ordering.then_eq_lt, compare_lt_iff_lt, compare_eq_iff_eq, compare_lt_iff_lt]

theorem dyadic_pos (hm : 0 < m) (q : Int) : 0 < dyadic m q :=
  mul_pos (Nat.cast_pos.mpr hm) (two_zpow_pos q)

@[simp] theorem dyadic_zero (q : Int) : dyadic 0 q = 0 := by
  rw [dyadic, Nat.cast_zero, zero_mul]

end Dyadics

section Doubles

variable {x y : Float} {a b : ℚ}

theorem isFinite_eq (x : Float) : x.isFinite = (Datum.ofFloat x).unpacked.isFinite :=
  congrArg UnpackedFloat.isFinite (Datum.unpack_eq _)

theorem isFinite_iff : x.isFinite = true ↔ ∃ a, Extended.ofFloat x = .finite a := by
  rw [isFinite_eq, ofFloat_eq]
  cases Datum.ofFloat x with
  | finite negative m q =>
    by_cases hm : 0 < m <;> simp [Datum.unpacked, hm, UnpackedFloat.isFinite]
  | infinite | nan => simp [Datum.unpacked, UnpackedFloat.isFinite]

theorem lt_iff_compare :
    x < y ↔ (Datum.ofFloat x).unpacked.compare (Datum.ofFloat y).unpacked = some .lt := by
  have hx : x.toModel.unpack = (Datum.ofFloat x).unpacked := Datum.unpack_eq _
  have hy : y.toModel.unpack = (Datum.ofFloat y).unpacked := Datum.unpack_eq _
  rw [← hx, ← hy]
  change decide (x.toModel < y.toModel) = true ↔ _
  rw [decide_eq_true_iff]
  exact beq_iff_eq

theorem unpacked_zero (negative : Bool) (q : Int) :
    (Datum.finite negative 0 q).unpacked = .zero (Datum.sign negative) := by
  simp [Datum.unpacked]

theorem unpacked_pos (negative : Bool) {m : Nat} (q : Int) (hm : 0 < m) :
    (Datum.finite negative m q).unpacked = .finite (Datum.sign negative) m q hm := by
  simp [Datum.unpacked, hm]

/-- With both significands positive, the signs tell the order, or else exponents before
significands. -/
theorem compare_unpacked_pos {negative negative' : Bool} {m m' : Nat} {q q' : Int}
    (h : Format.binary64.Has m q) (h' : Format.binary64.Has m' q') (hm : 0 < m) (hm' : 0 < m') :
    (Datum.finite negative m q).unpacked.compare (Datum.finite negative' m' q').unpacked =
      some .lt ↔ signed negative (dyadic m q) < signed negative' (dyadic m' q') := by
  have hv := dyadic_pos hm q
  have hv' := dyadic_pos hm' q'
  rw [unpacked_pos negative q hm, unpacked_pos negative' q' hm']
  cases negative <;> cases negative'
  case false.false =>
    rw [signed_false, signed_false, h.dyadic_lt_iff h' (by decide), ← then_compare_eq_lt]
    exact Option.some_inj
  case false.true =>
    rw [signed_false, signed_true]
    exact iff_of_false (by simp [Datum.sign, UnpackedFloat.compare]) (by linarith)
  case true.false =>
    rw [signed_false, signed_true]
    exact iff_of_true rfl (by linarith)
  case true.true =>
    rw [signed_true, signed_true, neg_lt_neg_iff, h'.dyadic_lt_iff h (by decide),
      ← then_compare_eq_lt, compare_then_swap]
    exact Option.some_inj

theorem compare_unpacked {negative negative' : Bool} {m m' : Nat} {q q' : Int}
    (h : Format.binary64.Has m q) (h' : Format.binary64.Has m' q') :
    (Datum.finite negative m q).unpacked.compare (Datum.finite negative' m' q').unpacked =
      some .lt ↔ signed negative (dyadic m q) < signed negative' (dyadic m' q') := by
  rcases m.eq_zero_or_pos with rfl | hm <;> rcases m'.eq_zero_or_pos with rfl | hm'
  · simp [unpacked_zero, UnpackedFloat.compare]
  · have hv' := dyadic_pos hm' q'
    cases negative' <;>
      simp [unpacked_zero, unpacked_pos, hm', hv', hv'.le, Datum.sign, UnpackedFloat.compare]
  · have hv := dyadic_pos hm q
    cases negative <;>
      simp [unpacked_zero, unpacked_pos, hm, hv, hv.le, Datum.sign, UnpackedFloat.compare]
  · exact compare_unpacked_pos h h' hm hm'

/-- Finite doubles are in the order of their values; the two zeros are equal in it. -/
theorem lt_iff_of_finite (ha : Extended.ofFloat x = .finite a)
    (hb : Extended.ofFloat y = .finite b) : x < y ↔ a < b := by
  obtain ⟨negative, m, q, hx, rfl⟩ := ofFloat_eq_finite.mp ha
  obtain ⟨negative', m', q', hy, rfl⟩ := ofFloat_eq_finite.mp hb
  rw [lt_iff_compare, hx, hy, compare_unpacked (has_of_ofFloat hx) (has_of_ofFloat hy)]

theorem le_iff_of_finite (ha : Extended.ofFloat x = .finite a)
    (hb : Extended.ofFloat y = .finite b) : x ≤ y ↔ a ≤ b := by
  have hx := isFinite_iff.mpr ⟨a, ha⟩
  have hy := isFinite_iff.mpr ⟨b, hb⟩
  rw [← not_lt, ← lt_iff_of_finite hb ha]
  refine ⟨fun hle hlt => ?_, le_of_finite_of_not_lt hx hy⟩
  obtain ⟨o, hyx, hxy⟩ := exists_compare hx hy
  have hle : x.toModel.unpack.le y.toModel.unpack = true := of_decide_eq_true hle
  have hlt : y.toModel.unpack.lt x.toModel.unpack = true := of_decide_eq_true hlt
  rw [UnpackedFloat.le, hxy] at hle
  rw [UnpackedFloat.lt, hyx] at hlt
  cases o <;> simp_all

theorem le_of_beq (h : (x == y) = true) : x ≤ y := by
  refine decide_eq_true (p := x.toModel ≤ y.toModel) ?_
  show x.toModel.unpack.le y.toModel.unpack = true
  have hequal : (x.toModel.unpack.compare y.toModel.unpack == some .eq) = true := h
  rw [UnpackedFloat.le, beq_iff_eq.mp hequal]
  rfl

end Doubles

end BoxMin
