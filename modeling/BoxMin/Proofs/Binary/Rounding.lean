import Mathlib.Algebra.Order.Field.Power
import Mathlib.Algebra.Order.Ring.Rat
import Mathlib.Tactic.Linarith
import Mathlib.Tactic.LinearCombination
import Mathlib.Tactic.Positivity
import Mathlib.Tactic.Ring
import BoxMin.Binary.Rounding

/-!
Rounding to a format gives the nearest number of the format, ties to the even significand, and gives
none exactly from half a unit above the largest number on. Numbers are compared as rationals.
-/

set_option autoImplicit false

namespace BoxMin

section Division

variable {num den : Nat}

theorem roundDiv_spec (num : Nat) (hden : 0 < den) :
    2 * num ≤ (2 * roundDiv num den + 1) * den ∧ 2 * (roundDiv num den * den) ≤ 2 * num + den ∧
      ((2 * num = (2 * roundDiv num den + 1) * den ∨ 2 * (roundDiv num den * den) = 2 * num + den) →
        Even (roundDiv num den)) := by
  obtain ⟨n, hn⟩ : ∃ n, num / den = n := ⟨_, rfl⟩
  obtain ⟨r, hr⟩ : ∃ r, num % den = r := ⟨_, rfl⟩
  have hlt : r < den := hr ▸ Nat.mod_lt num hden
  have hnum : num = n * den + r := by rw [← hn, ← hr, Nat.div_add_mod']
  have hsucc : (n + 1) * den = n * den + den := by ring
  have hodd (k : Nat) : (2 * k + 1) * den = 2 * (k * den) + den := by ring
  unfold roundDiv
  simp only [hn, hr, hodd]
  split
  · exact ⟨by omega, by omega, by omega⟩
  · split
    · exact ⟨by omega, by omega, by omega⟩
    · obtain hpar | hpar := Nat.mod_two_eq_zero_or_one n
      · rw [hpar, Nat.add_zero]
        exact ⟨by omega, by omega, fun _ => Nat.even_iff.mpr hpar⟩
      · rw [hpar]
        exact ⟨by omega, by omega, fun _ => Nat.even_iff.mpr (by omega)⟩

/-- The rounded quotient is at most a half away from the exact one, and even if it is a half. -/
theorem roundDiv_near (num : Nat) (hden : 0 < den) :
    |(num : ℚ) / den - roundDiv num den| ≤ 1 / 2 ∧
      (|(num : ℚ) / den - roundDiv num den| = 1 / 2 → Even (roundDiv num den)) := by
  obtain ⟨hle, hge, heven⟩ := roundDiv_spec num hden
  obtain ⟨n, hn⟩ : ∃ n, roundDiv num den = n := ⟨_, rfl⟩
  obtain ⟨x, hx⟩ : ∃ x : ℚ, (num : ℚ) / den = x := ⟨_, rfl⟩
  rw [hn] at hle hge heven ⊢
  rw [hx]
  have hpos : (0 : ℚ) < den := by exact_mod_cast hden
  have hnum : (num : ℚ) = x * den := by rw [← hx, div_mul_cancel₀ _ hpos.ne']
  have hle : 2 * x ≤ 2 * n + 1 := by
    have h : 2 * (num : ℚ) ≤ (2 * n + 1) * den := by exact_mod_cast hle
    rw [hnum, ← mul_assoc] at h
    exact le_of_mul_le_mul_right h hpos
  have hge : 2 * n ≤ 2 * x + 1 := by
    have h : 2 * ((n : ℚ) * den) ≤ 2 * num + den := by exact_mod_cast hge
    rw [hnum] at h
    exact le_of_mul_le_mul_right (by linarith) hpos
  refine ⟨abs_le.mpr ⟨by linarith, by linarith⟩, fun hhalf => heven ?_⟩
  obtain h | h := eq_or_eq_neg_of_abs_eq hhalf
  · left
    have h : 2 * (num : ℚ) = (2 * n + 1) * den := by rw [hnum, ← mul_assoc]; congr 1; linarith
    exact_mod_cast h
  · right
    have h : 2 * ((n : ℚ) * den) = 2 * num + den := by
      rw [hnum]; linear_combination (-2 * (den : ℚ)) * h
    exact_mod_cast h

/-- A whole number at most a half away is a nearest one, and the only one unless it is a half. -/
theorem abs_sub_le_of_half {x : ℚ} {n k : Int} (h : |x - n| ≤ 1 / 2) :
    |x - n| ≤ |x - k| ∧ (|x - n| = |x - k| → n ≠ k → |x - n| = 1 / 2) := by
  by_cases hne : n = k
  · subst hne
    exact ⟨le_rfl, fun _ hne => absurd rfl hne⟩
  · have hfar : (1 : ℚ) ≤ |(n : ℚ) - k| := by
      exact_mod_cast Int.one_le_abs (sub_ne_zero.mpr hne)
    have htri : |(n : ℚ) - k| ≤ |x - n| + |x - k| := by
      have h := abs_sub_le (n : ℚ) x k
      rwa [abs_sub_comm (n : ℚ) x] at h
    exact ⟨by linarith, fun heq _ => by linarith⟩

/-- At most a power of two, and even at a half, a rounded number is that power exactly from half a
unit below it on. -/
theorem half_below_le_iff {x : ℚ} {n p : Nat} (hp : p ≠ 0) (hle : n ≤ 2 ^ p)
    (hhalf : |x - n| ≤ 1 / 2) (htie : |x - n| = 1 / 2 → Even n) :
    2 ^ p - 1 / 2 ≤ x ↔ n = 2 ^ p := by
  constructor
  · intro hge
    by_contra hne
    have hless : (n : ℚ) + 1 ≤ 2 ^ p := by exact_mod_cast lt_of_le_of_ne hle hne
    have hupper := (abs_le.mp hhalf).2
    -- half way between an odd number and the power, which is even
    have hsucc : (n : ℚ) + 1 = 2 ^ p := by linarith
    have heven : Even n := htie (by rw [abs_of_nonneg (by linarith)]; linarith)
    have hodd : Even (n + 1) := by
      have h : n + 1 = 2 ^ p := by exact_mod_cast hsucc
      rw [h]
      exact Nat.even_pow.mpr ⟨even_two, hp⟩
    exact absurd heven (Nat.even_add_one.mp hodd)
  · rintro rfl
    have hlower := (abs_le.mp hhalf).1
    push_cast at hlower
    linarith

end Division

def dyadic (m : Nat) (q : Int) : ℚ := m * 2 ^ q

theorem dyadic_nonneg (m : Nat) (q : Int) : 0 ≤ dyadic m q := by
  unfold dyadic; positivity

theorem two_zpow_pos (q : Int) : (0 : ℚ) < 2 ^ q := by positivity

theorem natCast_two_pow (k : Nat) : ((2 ^ k : Nat) : ℚ) = 2 ^ (k : Int) := by
  rw [zpow_natCast, Nat.cast_pow, Nat.cast_ofNat]

theorem dyadic_lt_dyadic {m k : Nat} {q : Int} : dyadic m q < dyadic k q ↔ m < k := by
  rw [dyadic, dyadic, mul_lt_mul_iff_of_pos_right (two_zpow_pos q), Nat.cast_lt]

theorem dyadic_inj {m k : Nat} {q : Int} : dyadic m q = dyadic k q ↔ m = k := by
  rw [dyadic, dyadic, mul_left_inj' (two_zpow_pos q).ne', Nat.cast_inj]

theorem dyadic_shift (m : Nat) {q e : Int} (h : e ≤ q) :
    dyadic m q = dyadic (m * 2 ^ (q - e).toNat) e := by
  unfold dyadic
  rw [Nat.cast_mul, natCast_two_pow, mul_assoc, ← zpow_add₀ two_ne_zero]
  congr 2
  omega

namespace Format

/-- A significand and an exponent that a number of the format is written with, each number in one
way. -/
structure Has (fmt : Format) (m : Nat) (q : Int) : Prop where
  fits : m < 2 ^ fmt.precision
  minExp_le : fmt.minExp ≤ q
  le_maxExp : q ≤ fmt.maxExp
  full : fmt.minExp < q → 2 ^ (fmt.precision - 1) ≤ m

/-- Half a unit above the largest number of the format. -/
def limit (fmt : Format) : ℚ := (2 ^ fmt.precision - 1 / 2) * 2 ^ fmt.maxExp

variable {fmt : Format} {num den : Nat} {m m' : Nat} {q q' : Int}

theorem limit_lt (fmt : Format) : fmt.limit < 2 ^ (fmt.precision + fmt.maxExp) := by
  rw [zpow_add₀ two_ne_zero, zpow_natCast, limit]
  exact mul_lt_mul_of_pos_right (by linarith) (two_zpow_pos _)

theorem Has.dyadic_lt (h : fmt.Has m q) : dyadic m q < 2 ^ (fmt.precision + q) := by
  have hfits : (m : ℚ) < 2 ^ (fmt.precision : Int) := by
    rw [← natCast_two_pow]; exact_mod_cast h.fits
  rw [zpow_add₀ two_ne_zero, dyadic]
  exact mul_lt_mul_of_pos_right hfits (two_zpow_pos q)

theorem Has.dyadic_lt_limit (h : fmt.Has m q) : dyadic m q < fmt.limit := by
  have hfits : (m : ℚ) + 1 ≤ 2 ^ fmt.precision := by exact_mod_cast h.fits
  have hexp : (2 : ℚ) ^ q ≤ 2 ^ fmt.maxExp := zpow_le_zpow_right₀ one_le_two h.le_maxExp
  calc dyadic m q ≤ m * 2 ^ fmt.maxExp := mul_le_mul_of_nonneg_left hexp m.cast_nonneg
    _ < fmt.limit := mul_lt_mul_of_pos_right (by linarith) (two_zpow_pos _)

theorem Has.dyadic_lt_full (h : fmt.Has m q) (hprec : 0 < fmt.precision) (hlt : q < q') :
    dyadic m q < dyadic (2 ^ (fmt.precision - 1)) q' := by
  refine h.dyadic_lt.trans_le ?_
  rw [dyadic, natCast_two_pow, ← zpow_add₀ two_ne_zero]
  exact zpow_le_zpow_right₀ one_le_two (by omega)

section Scaled

theorem scaled_pos (num : Nat) (hden : 0 < den) (q : Int) : 0 < (scaled num den q).2 := by
  unfold scaled
  split
  · exact Nat.mul_pos hden (Nat.pow_pos Nat.two_pos)
  · exact hden

theorem scaled_div (num : Nat) (den : Nat) (q : Int) :
    ((scaled num den q).1 : ℚ) / (scaled num den q).2 = num / den / 2 ^ q := by
  unfold scaled
  split
  case isTrue hq =>
    obtain ⟨k, rfl⟩ := Int.eq_ofNat_of_zero_le hq
    simp only [Nat.pow_eq, Int.toNat_natCast, Nat.cast_mul, natCast_two_pow, div_mul_eq_div_div]
  case isFalse hq =>
    obtain ⟨k, hk⟩ := Int.eq_ofNat_of_zero_le (show 0 ≤ -q by omega)
    obtain rfl : q = -k := by omega
    simp only [Nat.pow_eq, neg_neg, Int.toNat_natCast, Nat.cast_mul, natCast_two_pow, zpow_neg]
    rw [div_inv_eq_mul, mul_div_right_comm]

theorem scaled_div_lt_iff (num : Nat) (hden : 0 < den) (q : Int) (k : Nat) :
    (scaled num den q).1 / (scaled num den q).2 < Nat.pow 2 k ↔
      (num : ℚ) / den < 2 ^ (k + q : Int) := by
  have hpos := scaled_pos num hden q
  have hrat : (0 : ℚ) < (scaled num den q).2 := by exact_mod_cast hpos
  rw [Nat.div_lt_iff_lt_mul hpos, Nat.pow_eq, ← Nat.cast_lt (α := ℚ), Nat.cast_mul, natCast_two_pow,
    ← div_lt_iff₀ hrat, scaled_div, div_lt_iff₀ (two_zpow_pos q), ← zpow_add₀ two_ne_zero]

/-- The leading digits of the two parts leave the exponent of the quotient in doubt by one. -/
theorem div_bounds (hnum : 0 < num) (hden : 0 < den) :
    (2 : ℚ) ^ ((num.log2 : Int) - den.log2 - 1) < num / den ∧
      (num : ℚ) / den < 2 ^ ((num.log2 : Int) - den.log2 + 1) := by
  have hpos : (0 : ℚ) < den := by exact_mod_cast hden
  constructor
  · have hle : ((2 ^ num.log2 : Nat) : ℚ) ≤ num := by exact_mod_cast Nat.log2_self_le hnum.ne'
    have hlt : (den : ℚ) < (2 ^ (den.log2 + 1) : Nat) := by exact_mod_cast Nat.lt_log2_self
    rw [natCast_two_pow] at hle hlt
    rw [lt_div_iff₀ hpos]
    calc (2 : ℚ) ^ ((num.log2 : Int) - den.log2 - 1) * den
        < 2 ^ ((num.log2 : Int) - den.log2 - 1) * 2 ^ ((den.log2 + 1 : Nat) : Int) := by gcongr
      _ = 2 ^ (num.log2 : Int) := by rw [← zpow_add₀ two_ne_zero]; congr 1; push_cast; ring
      _ ≤ num := hle
  · have hle : ((2 ^ den.log2 : Nat) : ℚ) ≤ den := by exact_mod_cast Nat.log2_self_le hden.ne'
    have hlt : (num : ℚ) < (2 ^ (num.log2 + 1) : Nat) := by exact_mod_cast Nat.lt_log2_self
    rw [natCast_two_pow] at hle hlt
    rw [div_lt_iff₀ hpos]
    calc (num : ℚ) < 2 ^ ((num.log2 + 1 : Nat) : Int) := hlt
      _ = 2 ^ ((num.log2 : Int) - den.log2 + 1) * 2 ^ (den.log2 : Int) := by
        rw [← zpow_add₀ two_ne_zero]; congr 1; push_cast; ring
      _ ≤ 2 ^ ((num.log2 : Int) - den.log2 + 1) * den := by gcongr

/-- At this exponent the quotient fits the significand, and fills it unless the exponent is the
smallest one. -/
theorem unitExponent_spec (fmt : Format) (hnum : 0 < num) (hden : 0 < den) :
    fmt.minExp ≤ fmt.unitExponent num den ∧
      (num : ℚ) / den < 2 ^ (fmt.precision + fmt.unitExponent num den) ∧
        (fmt.minExp < fmt.unitExponent num den →
          2 ^ (fmt.precision + fmt.unitExponent num den - 1) ≤ (num : ℚ) / den) := by
  obtain ⟨hlow, hhigh⟩ := div_bounds hnum hden
  obtain ⟨e, he⟩ : ∃ e, (num.log2 : Int) - den.log2 = e := ⟨_, rfl⟩
  obtain ⟨guess, hguess⟩ : ∃ guess, max fmt.minExp (e - fmt.precision) = guess := ⟨_, rfl⟩
  have hunit : fmt.unitExponent num den =
      if (num : ℚ) / den < 2 ^ (fmt.precision + guess) then guess else guess + 1 := by
    unfold unitExponent
    simp only [he, hguess, scaled_div_lt_iff num hden guess fmt.precision]
  rw [he] at hlow hhigh
  rw [hunit]
  split
  case isTrue hlt =>
    refine ⟨by omega, hlt, fun hmin => ?_⟩
    obtain rfl : e - fmt.precision = guess := by omega
    rw [add_sub_cancel]
    exact hlow.le
  case isFalse hge =>
    rw [not_lt] at hge
    have hmax : guess + fmt.precision ≤ e := by
      have h := (zpow_lt_zpow_iff_right₀ one_lt_two).mp (hge.trans_lt hhigh)
      omega
    obtain rfl : e - fmt.precision = guess := by omega
    refine ⟨by omega, ?_, fun _ => ?_⟩
    · rw [show fmt.precision + (e - fmt.precision + 1) = e + 1 by ring]
      exact hhigh
    · rw [show fmt.precision + (e - fmt.precision + 1) - 1 =
          fmt.precision + (e - fmt.precision) by ring]
      exact hge

end Scaled

section Rounded

/-- How many units of the exponent the quotient rounds to, before a carry into the next exponent. -/
def unitCount (fmt : Format) (num den : Nat) : Nat :=
  roundDiv (scaled num den (fmt.unitExponent num den)).1
    (scaled num den (fmt.unitExponent num den)).2

theorem round?_eq (fmt : Format) (num den : Nat) :
    fmt.round? num den =
      if fmt.unitCount num den < 2 ^ fmt.precision then
        if fmt.unitExponent num den ≤ fmt.maxExp then
          some (fmt.unitCount num den, fmt.unitExponent num den)
        else none
      else if fmt.unitExponent num den + 1 ≤ fmt.maxExp then
        some (2 ^ (fmt.precision - 1), fmt.unitExponent num den + 1)
      else none := by
  unfold round? unitCount
  simp only [Nat.pow_eq]
  split <;> rfl

theorem unitCount_near (fmt : Format) (num : Nat) (hden : 0 < den) :
    |(num : ℚ) / den / 2 ^ fmt.unitExponent num den - fmt.unitCount num den| ≤ 1 / 2 ∧
      (|(num : ℚ) / den / 2 ^ fmt.unitExponent num den - fmt.unitCount num den| = 1 / 2 →
        Even (fmt.unitCount num den)) := by
  rw [← scaled_div]
  exact roundDiv_near _ (scaled_pos num hden _)

theorem unitCount_le (fmt : Format) (hnum : 0 < num) (hden : 0 < den) :
    fmt.unitCount num den ≤ 2 ^ fmt.precision := by
  obtain ⟨-, hlt, -⟩ := fmt.unitExponent_spec hnum hden
  have hfits := (scaled_div_lt_iff num hden _ _).mpr hlt
  exact (roundDiv_le _ _).trans hfits

theorem le_unitCount (hprec : 0 < fmt.precision) (hnum : 0 < num) (hden : 0 < den)
    (hmin : fmt.minExp < fmt.unitExponent num den) :
    2 ^ (fmt.precision - 1) ≤ fmt.unitCount num den := by
  obtain ⟨-, -, hfull⟩ := fmt.unitExponent_spec hnum hden
  refine le_trans (not_lt.mp fun hlt => ?_) (div_le_roundDiv _ _)
  have hlt := (scaled_div_lt_iff num hden _ _).mp hlt
  have hexp : ((fmt.precision - 1 : Nat) : Int) + fmt.unitExponent num den =
      fmt.precision + fmt.unitExponent num den - 1 := by omega
  rw [hexp] at hlt
  exact absurd (hfull hmin) (not_le.mpr hlt)

theorem dyadic_of_round? (hprec : 0 < fmt.precision) (hnum : 0 < num) (hden : 0 < den)
    (h : fmt.round? num den = some (m, q)) :
    dyadic m q = dyadic (fmt.unitCount num den) (fmt.unitExponent num den) := by
  rw [round?_eq] at h
  split at h
  · split at h <;> cases h
    rfl
  · next hcarry =>
    split at h <;> cases h
    have hcount := le_antisymm (fmt.unitCount_le hnum hden) (not_lt.mp hcarry)
    unfold dyadic
    rw [hcount, natCast_two_pow, natCast_two_pow, ← zpow_add₀ two_ne_zero, ← zpow_add₀ two_ne_zero]
    congr 1
    omega

theorem has_of_round? (hprec : 0 < fmt.precision) (hnum : 0 < num) (hden : 0 < den)
    (h : fmt.round? num den = some (m, q)) : fmt.Has m q := by
  obtain ⟨hmin, -, -⟩ := fmt.unitExponent_spec hnum hden
  rw [round?_eq] at h
  split at h
  · next hfits =>
    split at h <;> cases h
    next hmax => exact ⟨hfits, hmin, hmax, le_unitCount hprec hnum hden⟩
  · split at h <;> cases h
    next hmax =>
      exact ⟨Nat.pow_lt_pow_right one_lt_two (by omega), by omega, hmax, fun _ => le_rfl⟩

/-- No number of the format is nearer than the rounded one, and one that is as near is rounded to
only with an even significand. -/
structure Nearest (fmt : Format) (v : ℚ) (m : Nat) (q : Int) : Prop where
  has : fmt.Has m q
  nearest : ∀ m' q', fmt.Has m' q' → |v - dyadic m q| ≤ |v - dyadic m' q'|
  even : ∀ m' q', fmt.Has m' q' → |v - dyadic m q| = |v - dyadic m' q'| →
    dyadic m q ≠ dyadic m' q' → Even m

theorem unitCount_nearest (fmt : Format) (num : Nat) (hden : 0 < den) (k : Nat) :
    |(num : ℚ) / den - dyadic (fmt.unitCount num den) (fmt.unitExponent num den)| ≤
        |(num : ℚ) / den - dyadic k (fmt.unitExponent num den)| ∧
      (|(num : ℚ) / den - dyadic (fmt.unitCount num den) (fmt.unitExponent num den)| =
          |(num : ℚ) / den - dyadic k (fmt.unitExponent num den)| →
        fmt.unitCount num den ≠ k → Even (fmt.unitCount num den)) := by
  obtain ⟨hhalf, htie⟩ := unitCount_near fmt num hden
  obtain ⟨n, hn⟩ : ∃ n, fmt.unitCount num den = n := ⟨_, rfl⟩
  obtain ⟨e, he⟩ : ∃ e, fmt.unitExponent num den = e := ⟨_, rfl⟩
  obtain ⟨x, hx⟩ : ∃ x : ℚ, (num : ℚ) / den / 2 ^ e = x := ⟨_, rfl⟩
  rw [hn, he, hx] at hhalf htie
  rw [hn, he]
  have hpos := two_zpow_pos e
  have hdist (j : Nat) : |(num : ℚ) / den - dyadic j e| = |x - j| * 2 ^ e := by
    have hscale : (x - j) * 2 ^ e = num / den - dyadic j e := by
      rw [sub_mul, ← hx, div_mul_cancel₀ _ hpos.ne', dyadic]
    rw [← hscale, abs_mul, abs_of_pos hpos]
  rw [hdist, hdist]
  obtain ⟨hle, heq⟩ :=
    abs_sub_le_of_half (k := (k : Int)) (n := (n : Int)) (x := x) (mod_cast hhalf)
  refine ⟨mul_le_mul_of_nonneg_right (mod_cast hle) hpos.le, fun h hne => htie ?_⟩
  exact mod_cast heq (mod_cast mul_right_cancel₀ hpos.ne' h) (mod_cast hne)

theorem nearest_of_round? (hprec : 1 < fmt.precision) (hnum : 0 < num) (hden : 0 < den)
    (h : fmt.round? num den = some (m, q)) : fmt.Nearest (num / den) m q := by
  have hp : 0 < fmt.precision := by omega
  obtain ⟨hmin, hlt, hfull⟩ := fmt.unitExponent_spec hnum hden
  have hvalue := dyadic_of_round? hp hnum hden h
  have hgrid := unitCount_nearest fmt num hden
  have heven (hn : Even (fmt.unitCount num den)) : Even m := by
    rw [round?_eq] at h
    split at h
    · split at h <;> cases h
      exact hn
    · split at h <;> cases h
      exact Nat.even_pow.mpr ⟨even_two, by omega⟩
  have key (m' : Nat) (q' : Int) (h' : fmt.Has m' q') :
      |(num : ℚ) / den - dyadic m q| ≤ |num / den - dyadic m' q'| ∧
        (|(num : ℚ) / den - dyadic m q| = |num / den - dyadic m' q'| →
          dyadic m q ≠ dyadic m' q' → Even m) := by
    rw [hvalue]
    by_cases hq : fmt.unitExponent num den ≤ q'
    · -- a multiple of the unit
      rw [dyadic_shift m' hq]
      obtain ⟨hle, htie⟩ := hgrid (m' * 2 ^ (q' - fmt.unitExponent num den).toNat)
      exact ⟨hle, fun heq hne => heven (htie heq fun hc => hne (by rw [hc]))⟩
    · -- below the smallest number with this unit, which is not above the quotient
      have hbelow := h'.dyadic_lt_full hp (not_le.mp hq)
      have habove :
          dyadic (2 ^ (fmt.precision - 1)) (fmt.unitExponent num den) ≤ (num : ℚ) / den := by
        have h := hfull (h'.minExp_le.trans_lt (not_le.mp hq))
        rw [dyadic, natCast_two_pow, ← zpow_add₀ two_ne_zero]
        convert h using 2
        omega
      have hle := (hgrid (2 ^ (fmt.precision - 1))).1
      rw [abs_of_nonneg (sub_nonneg.mpr habove)] at hle
      have hfar : |(num : ℚ) / den - dyadic (fmt.unitCount num den) (fmt.unitExponent num den)| <
          |num / den - dyadic m' q'| := by
        rw [abs_of_nonneg (sub_nonneg.mpr (hbelow.le.trans habove))]
        exact hle.trans_lt (by linarith)
      exact ⟨hfar.le, fun heq _ => absurd heq hfar.ne⟩
  exact ⟨has_of_round? hp hnum hden h, fun m' q' h' => (key m' q' h').1,
    fun m' q' h' => (key m' q' h').2⟩

/-- Beyond the format are the quotients whose rounded number needs a larger exponent. -/
theorem limit_le_iff (hprec : 0 < fmt.precision) (hexp : fmt.minExp ≤ fmt.maxExp) (hnum : 0 < num)
    (hden : 0 < den) :
    fmt.limit ≤ (num : ℚ) / den ↔
      fmt.maxExp < fmt.unitExponent num den ∨
        fmt.unitExponent num den = fmt.maxExp ∧ fmt.unitCount num den = 2 ^ fmt.precision := by
  obtain ⟨-, hlt, hfull⟩ := fmt.unitExponent_spec hnum hden
  obtain ⟨hhalf, htie⟩ := unitCount_near fmt num hden
  obtain ⟨n, hn⟩ : ∃ n, fmt.unitCount num den = n := ⟨_, rfl⟩
  obtain ⟨e, he⟩ : ∃ e, fmt.unitExponent num den = e := ⟨_, rfl⟩
  have hcount := fmt.unitCount_le hnum hden
  rw [he] at hlt hfull hhalf htie
  rw [hn] at hhalf htie hcount
  rw [hn, he]
  have hmax := two_zpow_pos fmt.maxExp
  have htop : (2 : ℚ) ^ (fmt.precision + fmt.maxExp) = 2 ^ fmt.precision * 2 ^ fmt.maxExp := by
    rw [zpow_add₀ two_ne_zero, zpow_natCast]
  obtain hbelow | rfl | habove := lt_trichotomy e fmt.maxExp
  · have hsmall : (num : ℚ) / den < fmt.limit := by
      have htwo : (2 : ℚ) ^ (fmt.precision + e) * 2 ≤ 2 ^ fmt.precision * 2 ^ fmt.maxExp := by
        rw [← htop, ← zpow_add_one₀ two_ne_zero]
        exact zpow_le_zpow_right₀ one_le_two (by omega)
      have hone : (2 : ℚ) ^ fmt.maxExp ≤ 2 ^ fmt.precision * 2 ^ fmt.maxExp :=
        le_mul_of_one_le_left hmax.le (one_le_pow₀ one_le_two)
      rw [limit, sub_mul]
      linarith
    exact ⟨fun h => absurd h (not_le.mpr hsmall), fun h => by omega⟩
  · have hv : (num : ℚ) / den = num / den / 2 ^ fmt.maxExp * 2 ^ fmt.maxExp :=
      (div_mul_cancel₀ _ hmax.ne').symm
    rw [limit, hv, mul_le_mul_iff_of_pos_right hmax,
      half_below_le_iff hprec.ne' hcount hhalf htie, or_iff_right (lt_irrefl _)]
    exact (and_iff_right rfl).symm
  · refine ⟨fun _ => .inl habove, fun _ => ?_⟩
    refine fmt.limit_lt.le.trans
      ((zpow_le_zpow_right₀ one_le_two ?_).trans (hfull (hexp.trans_lt habove)))
    omega

theorem round?_eq_none_iff (hprec : 0 < fmt.precision) (hexp : fmt.minExp ≤ fmt.maxExp)
    (hnum : 0 < num) (hden : 0 < den) :
    fmt.round? num den = none ↔ fmt.limit ≤ (num : ℚ) / den := by
  have hcount := fmt.unitCount_le hnum hden
  rw [limit_le_iff hprec hexp hnum hden, round?_eq]
  split
  · split
    · exact ⟨nofun, by omega⟩
    · exact ⟨fun _ => by omega, fun _ => rfl⟩
  · split
    · exact ⟨nofun, by omega⟩
    · exact ⟨fun _ => by omega, fun _ => rfl⟩

theorem whole_of_round? (hprec : 0 < fmt.precision) (hnum : 0 < num)
    (h : fmt.round? num 1 = some (m, q)) : ∃ k : Nat, dyadic m q = k := by
  rw [dyadic_of_round? hprec hnum one_pos h]
  obtain ⟨hhalf, -⟩ := unitCount_near fmt num one_pos
  obtain ⟨n, hn⟩ : ∃ n, fmt.unitCount num 1 = n := ⟨_, rfl⟩
  obtain ⟨e, he⟩ : ∃ e, fmt.unitExponent num 1 = e := ⟨_, rfl⟩
  rw [hn, he, Nat.cast_one, div_one] at hhalf
  rw [hn, he]
  obtain hneg | hpos := lt_or_ge e 0
  · -- the number is a multiple of the unit, and no other multiple is as near
    obtain ⟨k, hk⟩ := Int.eq_ofNat_of_zero_le (show 0 ≤ -e by omega)
    obtain rfl : e = -k := by omega
    have hscale : (num : ℚ) / 2 ^ (-k : Int) = ((num * 2 ^ k : Nat) : Int) := by
      rw [zpow_neg, div_inv_eq_mul, Int.cast_natCast, Nat.cast_mul, natCast_two_pow]
    rw [hscale] at hhalf
    have hexact := (abs_sub_le_of_half (n := (n : Int)) (k := ((num * 2 ^ k : Nat) : Int)) hhalf).1
    rw [sub_self, abs_zero, ← hscale, Int.cast_natCast] at hexact
    have hcount : (num : ℚ) / 2 ^ (-k : Int) = n :=
      sub_eq_zero.mp (abs_eq_zero.mp (hexact.antisymm (abs_nonneg _)))
    exact ⟨num, by rw [dyadic, ← hcount, div_mul_cancel₀ _ (two_zpow_pos _).ne']⟩
  · obtain ⟨k, rfl⟩ := Int.eq_ofNat_of_zero_le hpos
    exact ⟨n * 2 ^ k, by rw [dyadic, Nat.cast_mul, natCast_two_pow]⟩

end Rounded

end Format

end BoxMin
