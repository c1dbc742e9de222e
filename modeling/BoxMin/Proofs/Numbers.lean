import Mathlib.Data.Nat.Cast.Order.Field
import BoxMin.Value.Printed
import BoxMin.Proofs.Binary.Nearest

set_option autoImplicit false

namespace BoxMin

section Numbers

variable {v : Value} {p : Extended} {x : Float} {k : Int} {r : ℚ} {fault : Fault}

def Value.IsNumber (v : Value) : Prop := v.isReal = true ∧ ∀ b, v ≠ .bool b

theorem isNumber_ratio (r : ℚ) : (Value.ratio r).IsNumber := ⟨rfl, nofun⟩

theorem Value.isReal_of_isIntegral (h : v.isIntegral = true) : v.isReal = true := by
  cases v with
  | int | bool => rfl
  | scalar s =>
    cases s with
    | int => rfl
    | _ => cases h
  | _ => cases h

theorem Value.isReal_of_not_isNumber (h : ¬ v.IsNumber) (hbool : ∀ b, v ≠ .bool b) :
    v.isReal = false := by
  by_contra hreal
  exact h ⟨Bool.eq_true_of_not_eq_false hreal, hbool⟩

/-- Whole numbers, doubles and fractions: how a number of each kind is read, and what it is. -/
inductive Value.Reads : Value → Prop
  | whole {v : Value} (k : Int) (integral : v.isIntegral = true) (toWhole : v.toWhole = .ok k)
      (toFloat : v.toFloat = ratFloat k) (exact : v.extended? = some (.finite k))
      (writable : v.isWritable = Value.isShort k) : Reads v
  | double {v : Value} (x : Float) (integral : v.isIntegral = false)
      (toWhole : v.toWhole = wholeOfFloat x) (toFloat : v.toFloat = .ok x)
      (exact : v.extended? = some (.ofFloat x)) (writable : v.isWritable = true) : Reads v
  | ratio (r : ℚ) : Reads (.ratio r)

theorem Value.IsNumber.reads (h : v.IsNumber) : v.Reads := by
  obtain ⟨hreal, hbool⟩ := h
  cases v with
  | int k => exact .whole k rfl rfl rfl rfl rfl
  | float x => exact .double x rfl rfl rfl rfl rfl
  | ratio r => exact .ratio r
  | bool b => exact absurd rfl (hbool b)
  | scalar s =>
    cases s with
    | int _ k => exact .whole k rfl rfl rfl rfl rfl
    | float _ x => exact .double x rfl rfl rfl rfl rfl
    | _ => cases hreal
  | _ => cases hreal

def Extended.NearestTo : Extended → Float → Prop
  | .finite r, x => IsNearest r x
  | p, x => Extended.ofFloat x = p

def Extended.Nonneg : Extended → Prop
  | .finite r => 0 ≤ r
  | .remote negative _ | .infinite negative => negative = false
  | .undefined => False

theorem nearestTo_ofFloat (x : Float) : (Extended.ofFloat x).NearestTo x := by
  cases hx : Extended.ofFloat x with
  | finite r => exact isNearest_self hx
  | _ => exact hx

theorem Value.IsNumber.nearestTo (h : v.IsNumber) (hx : v.toFloat = .ok x) :
    ∃ p, v.extended? = some p ∧ p.NearestTo x := by
  cases h.reads with
  | whole k _ _ hfloat hexact =>
    rw [hfloat] at hx
    exact ⟨_, hexact, isNearest_of_ratFloat hx⟩
  | double y _ _ hfloat hexact =>
    obtain rfl := Except.ok.inj (hfloat.symm.trans hx)
    exact ⟨_, hexact, nearestTo_ofFloat y⟩
  | ratio r => exact ⟨_, rfl, isNearest_of_ratFloat hx⟩

theorem Value.IsNumber.toFloat_eq_error (h : v.IsNumber) :
    v.toFloat = .error fault ↔
      (∃ r, v.extended? = some (.finite r) ∧ Format.binary64.limit ≤ |r|) ∧ fault = .overflow := by
  cases h.reads with
  | whole k _ _ hfloat hexact => simp [hfloat, hexact, ratFloat_eq_error]
  | double y _ _ hfloat hexact =>
    rw [hfloat, hexact]
    refine ⟨nofun, ?_⟩
    rintro ⟨⟨r, hr, hlimit⟩, -⟩
    exact absurd (abs_lt_limit (Option.some.inj hr)) (not_lt.mpr hlimit)
  | ratio r => simp [Value.toFloat, Value.extended?, ratFloat_eq_error]

/-- The test on the double is the one on the number but just below zero. -/
theorem Extended.NearestTo.zero_le_iff (h : p.NearestTo x) :
    0.0 ≤ x ↔ p.Nonneg ∨ ∃ r, p = .finite r ∧ -dyadic 1 (-1075) ≤ r ∧ r < 0 := by
  cases p with
  | finite r =>
    have hpos := dyadic_nonneg 1 (-1075)
    rw [IsNearest.zero_le_iff h]
    constructor
    · intro hge
      obtain hr | hr := le_or_gt 0 r
      · exact .inl hr
      · exact .inr ⟨r, rfl, hge, hr⟩
    · rintro (hr | ⟨r', hr', hge, -⟩)
      · exact (neg_nonpos.mpr hpos).trans hr
      · rwa [Extended.finite.inj hr']
  | remote negative d =>
    have h : Extended.ofFloat x = .remote negative d := h
    rw [ofFloat_eq] at h
    split at h <;> cases h
  | infinite negative =>
    have h : Extended.ofFloat x = .infinite negative := h
    rw [ofFloat_eq] at h
    rw [BoxMin.zero_le_iff]
    revert h
    cases Datum.ofFloat x with
    | infinite negative' =>
      rintro ⟨⟩
      simp [Nonneg]
    | finite | nan => nofun
  | undefined =>
    have h : Extended.ofFloat x = .undefined := h
    rw [ofFloat_eq] at h
    rw [BoxMin.zero_le_iff]
    revert h
    cases Datum.ofFloat x with
    | nan => simp [Nonneg]
    | finite | infinite => nofun

theorem isWritable_int (k : Int) : (Value.int k).isWritable = Value.isShort k := by
  rw [Value.isWritable]

theorem two_pow_le_ten_pow {e d : Nat} (h : e ≤ d) : 2 ^ e ≤ Nat.pow 10 d :=
  (Nat.pow_le_pow_left (by decide) e).trans (Nat.pow_le_pow_right (by decide) h)

theorem isShort_of_lt_limit (h : |(k : ℚ)| < Format.binary64.limit) : Value.isShort k = true := by
  obtain ⟨e, he, hle⟩ : ∃ e : Nat, Format.binary64.precision + Format.binary64.maxExp = (e : Int) ∧
      e ≤ Numeral.wholeDigitLimit := ⟨1024, rfl, by decide⟩
  have hlt : (k.natAbs : ℚ) < (2 ^ e : Nat) := by
    rw [Nat.cast_natAbs, Int.cast_abs, natCast_two_pow, ← he]
    exact h.trans Format.binary64.limit_lt
  exact decide_eq_true ((Nat.cast_lt.mp hlt).trans_le (two_pow_le_ten_pow hle))

theorem truncate_intCast (k : Int) : Rat.truncate (k : ℚ) = k := by
  rw [Rat.truncate, Rat.num_intCast, Rat.den_intCast, Nat.cast_one, Int.tdiv_one]

theorem abs_truncate_le (r : ℚ) : |(Rat.truncate r : ℚ)| ≤ |r| := by
  rw [← Int.cast_abs, ← Nat.cast_natAbs, Rat.truncate, Int.natAbs_tdiv, Int.natAbs_natCast,
    ← natAbs_div_den]
  exact Nat.cast_div_le

end Numbers

end BoxMin
