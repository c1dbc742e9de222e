import BoxMin.Proofs.Binary.Order
import BoxMin.Proofs.Numbers

set_option autoImplicit false

namespace BoxMin

namespace Decimal

def value (d : Decimal) : ℚ := d.coefficient * 10 ^ d.exponent

theorem natCast_powTen (k : Nat) : (powTen (k : Int) : ℚ) = 10 ^ (k : Int) := by
  rw [powTen, Int.toNat_natCast, Nat.pow_eq, Nat.cast_pow, Nat.cast_ofNat, zpow_natCast]

theorem powTen_of_nonpos {e : Int} (h : e ≤ 0) : powTen e = 1 := by
  rw [powTen, Int.toNat_of_nonpos h]

theorem exact_eq (d : Decimal) : d.exact = d.value := by
  rw [exact, Rat.mkRat_eq_div, value, Int.cast_mul, Int.cast_natCast, Int.cast_natCast]
  obtain ⟨k, hk | hk⟩ := d.exponent.eq_nat_or_neg
  · rw [hk, natCast_powTen, powTen_of_nonpos (by omega), Nat.cast_one, div_one]
  · rw [hk, neg_neg, natCast_powTen, powTen_of_nonpos (by omega), Nat.cast_one, mul_one, zpow_neg,
      div_eq_mul_inv]

theorem value_nonneg (d : Decimal) : 0 ≤ d.value :=
  mul_nonneg (Nat.cast_nonneg _) (zpow_nonneg (by norm_num) _)

theorem value_eq_zero {d : Decimal} : d.value = 0 ↔ d.coefficient = 0 := by
  rw [value, mul_eq_zero, or_iff_left (zpow_ne_zero _ (by norm_num)), Nat.cast_eq_zero]

theorem value_stripZeros (fuel : Nat) (d : Decimal) : (d.stripZeros fuel).value = d.value := by
  induction fuel generalizing d with
  | zero => rfl
  | succ fuel ih =>
    unfold stripZeros
    split
    case isTrue h =>
      obtain ⟨c, hc⟩ := Nat.dvd_of_mod_eq_zero h.1
      rw [ih, value, value, hc, Nat.mul_div_cancel_left c (by norm_num),
        zpow_add_one₀ (by norm_num), Nat.cast_mul, Nat.cast_ofNat]
      ring
    case isFalse => rfl

theorem coefficient_lt (d : Decimal) : d.coefficient < 10 ^ d.digits.length := by
  rw [digits, Nat.toString_eq_repr, Nat.toList_repr]
  exact (Nat.length_toDigits_le_iff (by decide) Nat.length_toDigits_pos).mp le_rfl

theorem value_lt_one {d : Decimal} (h : d.exponent ≤ -d.digits.length) : d.value < 1 := by
  have hcoefficient : (d.coefficient : ℚ) < 10 ^ (d.digits.length : Int) := by
    rw [zpow_natCast]
    exact_mod_cast d.coefficient_lt
  calc d.value < 10 ^ (d.digits.length : Int) * 10 ^ d.exponent :=
        mul_lt_mul_of_pos_right hcoefficient (zpow_pos (by norm_num) _)
    _ = 10 ^ ((d.digits.length : Int) + d.exponent) := (zpow_add₀ (by norm_num) _ _).symm
    _ ≤ 1 := zpow_le_one_of_nonpos₀ (by norm_num) (by omega)

theorem one_le_value {d : Decimal} (hc : d.coefficient ≠ 0) (he : 0 ≤ d.exponent) :
    1 ≤ d.value :=
  one_le_mul_of_one_le_of_one_le (by exact_mod_cast Nat.one_le_iff_ne_zero.mpr hc)
    (one_le_zpow₀ (by norm_num) he)

end Decimal

theorem truncate_of_nonneg {r : ℚ} (h : 0 ≤ r) : Rat.truncate r = ⌊r⌋ := by
  rw [Rat.truncate, Int.tdiv_eq_ediv_of_nonneg (Rat.num_nonneg.mpr h), Rat.floor_def']

theorem truncate_of_abs_lt_one {r : ℚ} (h : |r| < 1) : Rat.truncate r = 0 := by
  have hle : |(Rat.truncate r : ℚ)| < 1 := (abs_truncate_le r).trans_lt h
  exact Int.abs_lt_one_iff.mp (by exact_mod_cast hle)

section Numbers

variable {x : Float} {r : ℚ} {k : Int}

def Extended.rational? : Extended → Option ℚ
  | .finite r => some r
  | _ => none

def Scalar.part? : Scalar → Option ℚ
  | .bool b => some (if b then 1 else 0)
  | .int _ k => some k
  | .float _ x | .complex _ x _ => (Extended.ofFloat x).rational?
  | .text _ => none

/-- What a number of any kind stands for, if it is finite. -/
def Value.part? : Value → Option ℚ
  | .bool b => some (if b then 1 else 0)
  | .int k => some k
  | .float x => (Extended.ofFloat x).rational?
  | .ratio r => some r
  | .decimal (.finite negative d) => some (signed negative d.value)
  | .scalar s => s.part?
  | _ => none

def Value.IsNumeric : Value → Prop
  | .bool _ | .int _ | .float _ | .ratio _ | .decimal _ => True
  | .scalar s => ∀ t, s ≠ .text t
  | _ => False

theorem rational?_eq_some {p : Extended} : p.rational? = some r ↔ p = .finite r := by
  cases p <;> simp [Extended.rational?]

/-- A reading cuts a number down to its whole part, unless the number is too large. -/
def Truncates (part : Option ℚ) (whole : Except Fault Int) : Prop :=
  match part with
  | some r => whole = .ok (Rat.truncate r) ∨ 1 ≤ |r| ∧ whole = .error .overflow
  | none => ∃ f, whole = .error f

theorem truncates_float (x : Float) :
    Truncates (Extended.ofFloat x).rational? (wholeOfFloat x) := by
  unfold wholeOfFloat
  cases Extended.ofFloat x with
  | finite r => exact .inl rfl
  | remote | infinite | undefined => exact ⟨_, rfl⟩

theorem truncates_decimal (d : SignedDecimal) : Truncates (Value.decimal d).part? d.toWhole := by
  cases d with
  | infinite | nan => exact ⟨_, rfl⟩
  | finite negative d =>
    have hvalue : (Value.decimal (.finite negative d)).part? =
        some (signed negative (d.stripZeros d.digits.length).value) := by
      rw [Decimal.value_stripZeros]
      rfl
    rw [hvalue, SignedDecimal.toWhole, Extended.ofDecimal]
    generalize d.stripZeros d.digits.length = e
    by_cases hzero : e.coefficient = 0
    · rw [if_pos hzero, Decimal.value_eq_zero.mpr hzero, signed_zero]
      exact .inl rfl
    by_cases hnear : -(Extended.reach + e.digits.length) ≤ e.exponent ∧ e.exponent ≤ Extended.reach
    · rw [if_neg hzero, if_pos (by simpa using hnear), Decimal.exact_eq]
      exact .inl rfl
    rw [if_neg hzero, if_neg (by simpa using hnear)]
    have hreach : 0 < Extended.reach := by decide
    by_cases hsmall : e.exponent < 0
    · have hless : |signed negative e.value| < 1 := by
        rw [abs_signed e.value_nonneg]
        exact Decimal.value_lt_one (by omega)
      exact .inl (by rw [truncate_of_abs_lt_one hless]; exact if_pos hsmall)
    · refine .inr ⟨?_, if_neg hsmall⟩
      rw [abs_signed e.value_nonneg]
      exact Decimal.one_le_value hzero (not_lt.mp hsmall)

theorem Value.IsNumeric.truncates {v : Value} (h : v.IsNumeric) : Truncates v.part? v.toWhole := by
  have htruth (b : Bool) : Rat.truncate (if b then 1 else 0) = if b then 1 else 0 := by
    cases b <;> rfl
  cases v with
  | bool b => exact .inl (by rw [htruth]; rfl)
  | int k => exact .inl (by rw [truncate_intCast]; rfl)
  | float x => exact truncates_float x
  | ratio r => exact .inl rfl
  | decimal d => exact truncates_decimal d
  | scalar s =>
    cases s with
    | bool b => exact .inl (by rw [htruth]; rfl)
    | int t k => exact .inl (by rw [truncate_intCast]; rfl)
    | float t x => exact truncates_float x
    | complex t re im => exact truncates_float re
    | text t => exact absurd rfl (h t)
  | _ => cases h

theorem le_zero_iff_of_finite (hr : Extended.ofFloat x = .finite r) : x ≤ 0.0 ↔ r ≤ 0 :=
  le_iff_of_finite hr (ofFloat_zero false 0)

theorem atMostZero_complex {re im : Float} (hr : Extended.ofFloat re = .finite r) :
    (0 < r → (re < 0.0 || (re == 0.0 && im ≤ 0.0)) = false) ∧
      ((re < 0.0 || (re == 0.0 && im ≤ 0.0)) = false → 0 ≤ r) := by
  have hless : re < 0.0 ↔ r < 0 := lt_iff_of_finite hr (ofFloat_zero false 0)
  constructor
  · intro hpos
    have hnot : (re == 0.0) = false := by
      by_contra hzero
      have hle := (le_zero_iff_of_finite hr).mp (le_of_beq (Bool.eq_true_of_not_eq_false hzero))
      exact absurd hpos (not_lt.mpr hle)
    simp [hnot, hless, hpos.le]
  · intro hfalse
    rw [Bool.or_eq_false_iff, decide_eq_false_iff_not, hless] at hfalse
    exact not_lt.mp hfalse.1

/-- Of a complex number with no real part the imaginary one decides, so the test tells of zero
either way. -/
theorem Value.IsNumeric.exists_atMostZero {v : Value} (h : v.IsNumeric) (hr : v.part? = some r) :
    ∃ b, v.atMostZero = .ok b ∧ (0 < r → b = false) ∧ (b = false → 0 ≤ r) := by
  have hreal {b : Bool} (hb : b = true ↔ r ≤ 0) : (0 < r → b = false) ∧ (b = false → 0 ≤ r) := by
    rw [← Bool.not_eq_true, hb, not_le]
    exact ⟨id, le_of_lt⟩
  have hfloat {x : Float} (hx : (Extended.ofFloat x).rational? = some r) :
      (0 < r → decide (x ≤ 0.0) = false) ∧ (decide (x ≤ 0.0) = false → 0 ≤ r) :=
    hreal (by rw [decide_eq_true_iff, le_zero_iff_of_finite (rational?_eq_some.mp hx)])
  cases v with
  | bool b =>
    cases hr
    exact ⟨_, rfl, hreal (by cases b <;> simp)⟩
  | int k =>
    cases hr
    exact ⟨_, rfl, hreal (by simp)⟩
  | float x => exact ⟨_, rfl, hfloat hr⟩
  | ratio r =>
    cases hr
    exact ⟨_, rfl, hreal (by simp)⟩
  | decimal d =>
    cases d with
    | infinite | nan => cases hr
    | finite negative d =>
      cases hr
      have hd := d.value_nonneg
      refine ⟨_, rfl, hreal ?_⟩
      rw [Bool.or_eq_true, decide_eq_true_iff, ← Decimal.value_eq_zero]
      cases negative
      · simpa using hd.ge_iff_eq'.symm
      · simpa using hd
  | scalar s =>
    cases s with
    | bool b =>
      cases hr
      exact ⟨_, rfl, hreal (by cases b <;> simp)⟩
    | int t k =>
      cases hr
      exact ⟨_, rfl, hreal (by simp)⟩
    | float t x => exact ⟨_, rfl, hfloat hr⟩
    | complex t re im => exact ⟨_, rfl, atMostZero_complex (rational?_eq_some.mp hr)⟩
    | text t => exact absurd rfl (h t)
  | _ => cases h

end Numbers

end BoxMin
