import BoxMin.Value.Exact
import BoxMin.Value.Reading
import BoxMin.Proofs.Binary.Packing

set_option autoImplicit false

namespace BoxMin

def signed (negative : Bool) (v : ℚ) : ℚ := if negative then -v else v

section Signed

variable {v w : ℚ}

@[simp] theorem signed_false (v : ℚ) : signed false v = v := rfl

@[simp] theorem signed_true (v : ℚ) : signed true v = -v := rfl

@[simp] theorem signed_zero (negative : Bool) : signed negative 0 = 0 := by
  cases negative <;> simp

theorem abs_signed (hv : 0 ≤ v) (negative : Bool) : |signed negative v| = v := by
  cases negative
  · exact abs_of_nonneg hv
  · rw [signed_true, abs_neg, abs_of_nonneg hv]

theorem signed_of_nonneg {negative : Bool} (hv : 0 ≤ v) (h : 0 ≤ signed negative v) :
    signed negative v = v := by
  cases negative
  · rfl
  · rw [signed_true] at h ⊢
    linarith

theorem signed_of_nonpos {negative : Bool} (hv : 0 ≤ v) (h : signed negative v ≤ 0) :
    signed negative v = -v := by
  cases negative
  · rw [signed_false] at h ⊢
    linarith
  · rfl

theorem abs_signed_sub (negative : Bool) (v w : ℚ) :
    |signed negative v - signed negative w| = |v - w| := by
  cases negative
  · rfl
  · rw [signed_true, signed_true, neg_sub_neg, abs_sub_comm]

theorem abs_signed_sub_of_ne (hv : 0 ≤ v) (hw : 0 ≤ w) {negative negative' : Bool}
    (hne : negative ≠ negative') : |signed negative v - signed negative' w| = v + w := by
  obtain rfl : negative' = !negative := by revert hne; cases negative <;> cases negative' <;> simp
  cases negative
  · rw [signed_false, Bool.not_false, signed_true, abs_of_nonneg (by linarith), sub_neg_eq_add]
  · rw [signed_true, Bool.not_true, signed_false, abs_of_nonpos (by linarith)]
    ring

theorem abs_sub_le_signed (hv : 0 ≤ v) (hw : 0 ≤ w) (negative negative' : Bool) :
    |v - w| ≤ |signed negative v - signed negative' w| := by
  by_cases hsame : negative = negative'
  · rw [hsame, abs_signed_sub]
  · rw [abs_signed_sub_of_ne hv hw hsame, abs_le]
    exact ⟨by linarith, by linarith⟩

end Signed

section Doubles

variable {x y : Float} {a b : ℚ} {negative : Bool} {m m' : Nat} {q q' : Int}

theorem rational?_finite (negative : Bool) (m : Nat) (q : Int) :
    (Datum.finite negative m q).rational? = some (signed negative (dyadic m q)) := by
  have hvalue : (if 0 ≤ q then ((m * Nat.pow 2 q.toNat : Nat) : Rat)
      else mkRat m (Nat.pow 2 (-q).toNat)) = dyadic m q := by
    split
    case isTrue hq =>
      obtain ⟨k, rfl⟩ := Int.eq_ofNat_of_zero_le hq
      rw [dyadic, Nat.pow_eq, Int.toNat_natCast, Nat.cast_mul, natCast_two_pow]
    case isFalse hq =>
      obtain ⟨k, hk⟩ := Int.eq_ofNat_of_zero_le (show 0 ≤ -q by omega)
      obtain rfl : q = -k := by omega
      rw [dyadic, Nat.pow_eq, hk, Int.toNat_natCast, Rat.mkRat_eq_div, natCast_two_pow, zpow_neg,
        div_eq_mul_inv, Int.cast_natCast]
  simp only [Datum.rational?, hvalue, signed]

theorem ofFloat_eq (x : Float) :
    Extended.ofFloat x = match Datum.ofFloat x with
      | .finite negative m q => .finite (signed negative (dyadic m q))
      | .infinite negative => .infinite negative
      | .nan => .undefined := by
  unfold Extended.ofFloat
  cases Datum.ofFloat x with
  | finite negative m q => simp only [rational?_finite]
  | _ => rfl

theorem ofFloat_eq_finite :
    Extended.ofFloat x = .finite a ↔ ∃ negative m q, Datum.ofFloat x = .finite negative m q ∧
      a = signed negative (dyadic m q) := by
  rw [ofFloat_eq]
  cases Datum.ofFloat x with
  | finite negative m q =>
    constructor
    · intro h
      exact ⟨_, _, _, rfl, (Extended.finite.inj h).symm⟩
    · rintro ⟨_, _, _, h, rfl⟩
      cases h
      rfl
  | _ => simp

theorem has_of_ofFloat (h : Datum.ofFloat x = .finite negative m q) : Format.binary64.Has m q :=
  Datum.has_of_ofBits h

theorem exists_double (h : Format.binary64.Has m q) (negative : Bool) :
    ∃ x, Extended.ofFloat x = .finite (signed negative (dyadic m q)) := by
  have hdatum := @Datum.ofFloat_toFloat negative m q h
  exact ⟨_, ofFloat_eq_finite.mpr ⟨_, _, _, hdatum, rfl⟩⟩

theorem abs_lt_limit (ha : Extended.ofFloat x = .finite a) : |a| < Format.binary64.limit := by
  obtain ⟨negative, m, q, hdatum, rfl⟩ := ofFloat_eq_finite.mp ha
  rw [abs_signed (dyadic_nonneg m q)]
  exact (has_of_ofFloat hdatum).dyadic_lt_limit

def EvenSignificand (x : Float) : Prop :=
  ∃ negative m q, Datum.ofFloat x = .finite negative m q ∧ Even m

/-- No double is nearer to the number, and if another one is as near, this has the even
significand. -/
def IsNearest (r : ℚ) (x : Float) : Prop :=
  ∃ a, Extended.ofFloat x = .finite a ∧ ∀ y b, Extended.ofFloat y = .finite b →
    |r - a| ≤ |r - b| ∧ (|r - a| = |r - b| → a ≠ b → EvenSignificand x)

theorem isNearest_of_nearest {v : ℚ} (h : Format.binary64.Nearest v m q) (hv : 0 < v)
    (hx : Datum.ofFloat x = .finite negative m q) : IsNearest (signed negative v) x := by
  refine ⟨_, ofFloat_eq_finite.mpr ⟨_, _, _, hx, rfl⟩, fun y b hy => ?_⟩
  obtain ⟨negative', m', q', hdatum, rfl⟩ := ofFloat_eq_finite.mp hy
  have hhas := has_of_ofFloat hdatum
  have hle := h.nearest m' q' hhas
  have hfar := abs_sub_le_signed hv.le (dyadic_nonneg m' q') negative negative'
  rw [abs_signed_sub]
  refine ⟨hle.trans hfar, fun heq hne => ⟨negative, m, q, hx, ?_⟩⟩
  by_cases hvalue : dyadic m q = dyadic m' q'
  · -- the other one is the negative of this one, which is as near to no number but zero
    have hsign : negative ≠ negative' := fun hsign => hne (by rw [hvalue, hsign])
    rw [abs_signed_sub_of_ne hv.le (dyadic_nonneg m' q') hsign, hvalue] at heq
    obtain h | h := abs_choice (v - dyadic m' q')
    · have hzero : dyadic m' q' = 0 := by linarith
      rw [hvalue, hzero, signed_zero, signed_zero] at hne
      exact absurd rfl hne
    · linarith
  · exact h.even m' q' hhas (le_antisymm hle (hfar.trans heq.ge)) hvalue

theorem has_of_least (h : m < 2 ^ 53) : Format.binary64.Has m (-1074) :=
  ⟨h, le_rfl, by decide, fun h => absurd h (lt_irrefl _)⟩

theorem ofFloat_zero (negative : Bool) (q : Int) :
    Extended.ofFloat (Datum.finite negative 0 q).toFloat = .finite 0 := by
  have hexp : (Datum.finite negative 0 q).toFloat = (Datum.finite negative 0 (-1074)).toFloat := by
    simp [Datum.toFloat, Datum.toBits]
  rw [ofFloat_eq, hexp, Datum.ofFloat_toFloat (has_of_least (by decide))]
  simp [dyadic]

theorem isNearest_self (ha : Extended.ofFloat x = .finite a) : IsNearest a x := by
  refine ⟨a, ha, fun y b _ => ?_⟩
  rw [sub_self, abs_zero]
  exact ⟨abs_nonneg _, fun h hne => absurd (sub_eq_zero.mp (abs_eq_zero.mp h.symm)) hne⟩

theorem signed_abs (r : ℚ) : signed (decide (r < 0)) |r| = r := by
  by_cases hr : r < 0
  · rw [decide_eq_true hr, signed_true, abs_of_neg hr, neg_neg]
  · rw [decide_eq_false hr, signed_false, abs_of_nonneg (not_lt.mp hr)]

theorem natAbs_div_den (r : ℚ) : (r.num.natAbs : ℚ) / r.den = |r| := by
  rw [Nat.cast_natAbs, Int.cast_abs, ← Nat.abs_cast r.den, ← abs_div, Rat.num_div_den]

theorem ratFloat_eq (r : ℚ) :
    ratFloat r = match Format.binary64.round? r.num.natAbs r.den with
      | some (m, q) => .ok (Datum.finite (decide (r < 0)) m q).toFloat
      | none => .error .overflow := by
  unfold ratFloat Rat.toFloat? nearestFloat?
  cases Format.binary64.round? r.num.natAbs r.den <;> rfl

theorem round_of_ratFloat {r : ℚ} (hr : r ≠ 0) (h : ratFloat r = .ok x) :
    ∃ m q, Format.binary64.round? r.num.natAbs r.den = some (m, q) ∧
      Datum.ofFloat x = .finite (decide (r < 0)) m q := by
  have hnum : 0 < r.num.natAbs := Int.natAbs_pos.mpr (Rat.num_ne_zero.mpr hr)
  rw [ratFloat_eq] at h
  split at h
  case h_1 m q hround =>
    cases h
    have hhas := Format.has_of_round? (by decide) hnum r.den_pos hround
    exact ⟨m, q, hround, Datum.ofFloat_toFloat hhas⟩
  case h_2 => cases h

theorem ofFloat_of_ratFloat_zero (h : ratFloat 0 = .ok x) : Extended.ofFloat x = .finite 0 := by
  have hround : Format.binary64.round? (0 : ℚ).num.natAbs (0 : ℚ).den = some (0, -53) := by decide
  rw [ratFloat_eq, hround] at h
  cases h
  exact ofFloat_zero _ _

theorem isNearest_of_ratFloat {r : ℚ} (h : ratFloat r = .ok x) : IsNearest r x := by
  by_cases hr : r = 0
  · subst hr
    exact isNearest_self (ofFloat_of_ratFloat_zero h)
  · have hnum : 0 < r.num.natAbs := Int.natAbs_pos.mpr (Rat.num_ne_zero.mpr hr)
    obtain ⟨m, q, hround, hdatum⟩ := round_of_ratFloat hr h
    have hnear := Format.nearest_of_round? (by decide) hnum r.den_pos hround
    rw [natAbs_div_den] at hnear
    have hx := isNearest_of_nearest hnear (abs_pos.mpr hr) hdatum
    rwa [signed_abs] at hx

theorem limit_pos : 0 < Format.binary64.limit := by
  norm_num [Format.limit, Format.binary64]

/-- Only numbers beyond the doubles cannot be converted. -/
theorem ratFloat_eq_error {r : ℚ} {fault : Fault} :
    ratFloat r = .error fault ↔ Format.binary64.limit ≤ |r| ∧ fault = .overflow := by
  have hnone (hr : r ≠ 0) :
      Format.binary64.round? r.num.natAbs r.den = none ↔ Format.binary64.limit ≤ |r| := by
    have hnum : 0 < r.num.natAbs := Int.natAbs_pos.mpr (Rat.num_ne_zero.mpr hr)
    rw [Format.round?_eq_none_iff (by decide) (by decide) hnum r.den_pos, natAbs_div_den]
  rw [ratFloat_eq]
  constructor
  · intro h
    split at h
    case h_1 => cases h
    case h_2 hround =>
      cases h
      have hr : r ≠ 0 := by
        rintro rfl
        exact absurd hround (by decide)
      exact ⟨(hnone hr).mp hround, rfl⟩
  · rintro ⟨h, rfl⟩
    rw [(hnone (abs_pos.mp (limit_pos.trans_le h))).mpr h]

theorem isWholeFloat_iff : isWholeFloat x = true ↔ ∃ k : Int, Extended.ofFloat x = .finite k := by
  unfold isWholeFloat
  cases Extended.ofFloat x with
  | finite r =>
    rw [beq_iff_eq, Rat.den_eq_one_iff]
    constructor
    · intro h
      exact ⟨r.num, by rw [h]⟩
    · rintro ⟨k, h⟩
      rw [Extended.finite.inj h, Rat.num_intCast]
  | _ => simp

theorem isWholeFloat_congr (h : Extended.ofFloat x = Extended.ofFloat y) :
    isWholeFloat x = isWholeFloat y := by
  rw [isWholeFloat, isWholeFloat, h]

theorem isWholeFloat_of_ratFloat {r : ℚ} (hr : r.den = 1) (h : ratFloat r = .ok x) :
    isWholeFloat x = true := by
  rw [isWholeFloat_iff]
  by_cases hzero : r = 0
  · subst hzero
    exact ⟨0, by rw [ofFloat_of_ratFloat_zero h, Int.cast_zero]⟩
  · have hnum : 0 < r.num.natAbs := Int.natAbs_pos.mpr (Rat.num_ne_zero.mpr hzero)
    obtain ⟨m, q, hround, hdatum⟩ := round_of_ratFloat hzero h
    rw [hr] at hround
    obtain ⟨k, hk⟩ := Format.whole_of_round? (by decide) hnum hround
    refine ⟨if r < 0 then -k else k, ?_⟩
    rw [ofFloat_eq, hdatum]
    simp only [hk, signed, decide_eq_true_eq]
    split <;> simp

theorem dyadic_succ_lt (h : Format.binary64.Has m q) (h' : Format.binary64.Has m' q')
    (heven : Even m) (heven' : Even m') (hlt : dyadic m q < dyadic m' q') :
    Format.binary64.Has (m + 1) q ∧ dyadic (m + 1) q < dyadic m' q' := by
  have hfits : m + 1 < 2 ^ Format.binary64.precision := by
    obtain ⟨k, rfl⟩ := heven
    have hfits := h.fits
    dsimp [Format.binary64] at hfits ⊢
    omega
  refine ⟨⟨hfits, h.minExp_le, h.le_maxExp, fun hq => (h.full hq).trans (Nat.le_succ m)⟩, ?_⟩
  by_cases hq : q ≤ q'
  · rw [dyadic_shift m' hq] at hlt ⊢
    rw [dyadic_lt_dyadic] at hlt ⊢
    obtain ⟨j, hj⟩ := heven
    obtain ⟨k, hk⟩ := heven'.mul_right (2 ^ (q' - q).toNat)
    omega
  · -- the second one has the smaller exponent, so it is the smaller one
    have hbelow := h'.dyadic_lt_full (by decide) (not_le.mp hq)
    have hfull := h.full (h'.minExp_le.trans_lt (not_le.mp hq))
    exact absurd (dyadic_lt_dyadic.mp (hlt.trans hbelow)) (not_lt.mpr hfull)

/-- Between two doubles with even significands lies a third. -/
theorem exists_between_doubles (hx : Extended.ofFloat x = .finite a)
    (hy : Extended.ofFloat y = .finite b) (hevenx : EvenSignificand x) (heveny : EvenSignificand y)
    (hlt : a < b) : ∃ z c, Extended.ofFloat z = .finite c ∧ a < c ∧ c < b := by
  obtain ⟨negative, m, q, hdx, heven⟩ := hevenx
  obtain ⟨negative', m', q', hdy, heven'⟩ := heveny
  rw [ofFloat_eq, hdx] at hx
  rw [ofFloat_eq, hdy] at hy
  obtain rfl := Extended.finite.inj hx
  obtain rfl := Extended.finite.inj hy
  have hhas := has_of_ofFloat hdx
  have hhas' := has_of_ofFloat hdy
  have hm := dyadic_nonneg m q
  have hm' := dyadic_nonneg m' q'
  by_cases hnonneg : 0 ≤ signed negative (dyadic m q)
  · have hx := signed_of_nonneg hm hnonneg
    have hy := signed_of_nonneg hm' (hnonneg.trans hlt.le)
    rw [hx, hy] at hlt ⊢
    obtain ⟨hnext, hless⟩ := dyadic_succ_lt hhas hhas' heven heven' hlt
    obtain ⟨z, hz⟩ := exists_double hnext false
    exact ⟨z, _, hz, dyadic_lt_dyadic.mpr (Nat.lt_succ_self m), hless⟩
  · by_cases hnonpos : signed negative' (dyadic m' q') ≤ 0
    · have hx := signed_of_nonpos hm (hlt.le.trans hnonpos)
      have hy := signed_of_nonpos hm' hnonpos
      rw [hx, hy] at hlt ⊢
      obtain ⟨hnext, hless⟩ := dyadic_succ_lt hhas' hhas heven' heven (neg_lt_neg_iff.mp hlt)
      obtain ⟨z, hz⟩ := exists_double hnext true
      exact ⟨z, _, hz, neg_lt_neg hless, neg_lt_neg (dyadic_lt_dyadic.mpr (Nat.lt_succ_self m'))⟩
    · -- of opposite signs
      exact ⟨_, 0, ofFloat_zero false 0, not_le.mp hnonneg, not_le.mp hnonpos⟩

theorem not_lt_of_isNearest {r : ℚ} (hx : IsNearest r x) (hy : IsNearest r y)
    (ha : Extended.ofFloat x = .finite a) (hb : Extended.ofFloat y = .finite b) : ¬ a < b := by
  intro hlt
  obtain ⟨a', ha', hx⟩ := hx
  obtain ⟨b', hb', hy⟩ := hy
  obtain rfl : a = a' := Extended.finite.inj (ha.symm.trans ha')
  obtain rfl : b = b' := Extended.finite.inj (hb.symm.trans hb')
  have hdist : |r - a| = |r - b| := le_antisymm (hx y b hb).1 (hy x a ha).1
  -- as near as each other they are both even, so one between them would be nearer
  obtain ⟨z, c, hz, hac, hcb⟩ := exists_between_doubles ha hb ((hx y b hb).2 hdist hlt.ne)
    ((hy x a ha).2 hdist.symm hlt.ne') hlt
  have hmid : r - a = b - r := by
    obtain h | h := abs_eq_abs.mp hdist <;> linarith
  have hc := (hx z c hz).1
  rw [abs_of_nonneg (by linarith)] at hc
  obtain h | h := abs_choice (r - c) <;> linarith

/-- All doubles nearest to a number have the same value. -/
theorem IsNearest.ofFloat_eq {r : ℚ} (hx : IsNearest r x) (hy : IsNearest r y) :
    Extended.ofFloat x = Extended.ofFloat y := by
  obtain ⟨a, ha, -⟩ := id hx
  obtain ⟨b, hb, -⟩ := id hy
  have hle := not_lt.mp (not_lt_of_isNearest hx hy ha hb)
  have hge := not_lt.mp (not_lt_of_isNearest hy hx hb ha)
  rw [ha, hb, le_antisymm hge hle]

theorem zero_le_iff_of_finite (ha : Extended.ofFloat x = .finite a) : 0.0 ≤ x ↔ 0 ≤ a := by
  obtain ⟨negative, m, q, hdatum, rfl⟩ := ofFloat_eq_finite.mp ha
  rw [zero_le_iff, hdatum]
  have hm := dyadic_nonneg m q
  have hzero : dyadic m q ≤ 0 ↔ m = 0 := by
    rw [hm.ge_iff_eq', dyadic, mul_eq_zero, or_iff_left (two_zpow_pos q).ne', Nat.cast_eq_zero]
  cases negative
  · simpa using hm
  · simpa using hzero.symm

theorem le_neg_least (ha : Extended.ofFloat x = .finite a) (hneg : a < 0) :
    a ≤ -dyadic 1 (-1074) ∧ (a = -dyadic 1 (-1074) → ¬ EvenSignificand x) := by
  obtain ⟨negative, m, q, hdatum, rfl⟩ := ofFloat_eq_finite.mp ha
  have hmin : -1074 ≤ q := (has_of_ofFloat hdatum).minExp_le
  have hvalue := signed_of_nonpos (dyadic_nonneg m q) hneg.le
  rw [hvalue, dyadic_shift m hmin] at hneg ⊢
  rw [neg_le_neg_iff, neg_inj, dyadic_inj, ← not_lt, dyadic_lt_dyadic]
  constructor
  · intro hzero
    rw [Nat.lt_one_iff.mp hzero, dyadic, Nat.cast_zero, zero_mul, neg_zero] at hneg
    exact lt_irrefl _ hneg
  · rintro hone ⟨negative', m', q', hdatum', heven⟩
    obtain ⟨-, rfl, -⟩ := Datum.finite.inj (hdatum.symm.trans hdatum')
    rw [Nat.eq_one_of_mul_eq_one_right hone] at heven
    exact Nat.not_even_one heven

/-- Just below half the smallest double, the nearest one is no longer a zero. -/
theorem IsNearest.zero_le_iff {r : ℚ} (h : IsNearest r x) :
    0.0 ≤ x ↔ -dyadic 1 (-1075) ≤ r := by
  obtain ⟨a, ha, hnear⟩ := h
  have hhalf : dyadic 1 (-1074) = 2 * dyadic 1 (-1075) := by
    rw [dyadic, dyadic, Nat.cast_one, one_mul, one_mul, ← zpow_one_add₀ two_ne_zero]
    rfl
  have hpos : 0 < dyadic 1 (-1075) := by rw [dyadic, Nat.cast_one, one_mul]; exact two_zpow_pos _
  rw [zero_le_iff_of_finite ha]
  constructor
  · intro hnonneg
    by_contra! hless
    -- the greatest double below zero is nearer than this one
    obtain ⟨y, hy⟩ := exists_double (has_of_least (m := 1) (by decide)) true
    have hle := (hnear y _ hy).1
    rw [signed_true, sub_neg_eq_add, abs_of_nonpos (by linarith)] at hle
    obtain h | h := abs_choice (r + dyadic 1 (-1074)) <;> linarith
  · intro hge
    by_contra! hneg
    -- zero is as near, so the number is half way to the greatest double below it, which is odd
    obtain ⟨hle, hodd⟩ := le_neg_least ha hneg
    obtain ⟨hnear, htie⟩ := hnear _ 0 (ofFloat_zero false 0)
    rw [sub_zero, abs_of_nonneg (by linarith)] at hnear htie
    have hr : r < 0 := by
      by_contra! hr
      rw [abs_of_nonneg hr] at hnear
      linarith
    rw [abs_of_neg hr] at hnear htie
    have hleast : a = -dyadic 1 (-1074) := by linarith
    exact hodd hleast (htie (by linarith) hneg.ne)

end Doubles

end BoxMin
