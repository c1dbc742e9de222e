import Mathlib
import BoxMin.Proofs.Binary.Rounding

set_option autoImplicit false

namespace BoxMin

open Float.Model.UnpackedFloat (Sign)

namespace Datum

def sign (negative : Bool) : Sign := if negative then .negative else .positive

/-- The same datum where all zeros of one sign are one. -/
def unpacked : Datum → Float.Model.UnpackedFloat
  | .finite negative m q =>
    if h : 0 < m then .finite (sign negative) m q h else .zero (sign negative)
  | .infinite negative => .infinity (sign negative)
  | .nan => .notANumber

section Fields

variable (b : BitVec 64)

theorem toNat_exponent :
    (@Float.Model.UnpackedFloat.unpackExponent Float.Model.Format.binary64 b).toNat =
      b.toNat / 2 ^ 52 % 2 ^ 11 := by
  simp [Float.Model.UnpackedFloat.unpackExponent, Nat.shiftRight_eq_div_pow]

theorem toNat_fraction :
    (@Float.Model.UnpackedFloat.unpackMantissa Float.Model.Format.binary64 b).toNat =
      b.toNat % 2 ^ 52 := by
  simp [Float.Model.UnpackedFloat.unpackMantissa]

theorem ofBitVec_sign :
    Sign.ofBitVec (@Float.Model.UnpackedFloat.unpackSign Float.Model.Format.binary64 b) =
      sign (b.toNat / Nat.pow 2 63 % 2 == 1) := by
  have hsign : (@Float.Model.UnpackedFloat.unpackSign Float.Model.Format.binary64 b).toNat =
      b.toNat / 2 ^ 63 % 2 := by
    simp [Float.Model.UnpackedFloat.unpackSign, Nat.shiftRight_eq_div_pow]
  simp only [Sign.ofBitVec, sign, BitVec.toNat_eq, hsign, Nat.pow_eq, beq_iff_eq,
    BitVec.toNat_ofNat]
  split <;> split <;> first | rfl | omega

theorem toNat_hidden (f : BitVec 52) : (1#1 ++ f).toNat = 2 ^ 52 + f.toNat := by
  rw [BitVec.toNat_append, ← Nat.shiftLeft_add_eq_or_of_lt f.isLt]
  rfl

end Fields

theorem unpack_eq (b : BitVec 64) :
    Float.Model.UnpackedFloat.unpack Float.Model.Format.binary64 b = (ofBits b.toNat).unpacked := by
  have hones : (-1#11 : BitVec 11).toNat = 2047 := rfl
  have hbias : Float.Model.Format.binary64.exponentBias = 1023 := rfl
  unfold Float.Model.UnpackedFloat.unpack ofBits
  simp only [ofBitVec_sign, BitVec.toNat_eq, toNat_exponent, toNat_fraction, toNat_hidden,
    Nat.pow_eq, hones, hbias, BitVec.toNat_ofNat, Nat.zero_mod]
  by_cases hspecial : b.toNat / 2 ^ 52 % 2 ^ 11 = 2047
  · rw [if_pos hspecial, if_pos hspecial]
    split <;> rfl
  · rw [if_neg hspecial, if_neg hspecial]
    split
    case isTrue hsmall =>
      split
      case isTrue hzero =>
        simp only [unpacked, hzero, lt_self_iff_false, dite_false]
      case isFalse hzero =>
        simp only [unpacked, Nat.pos_of_ne_zero hzero, hsmall, dite_true]
        rfl
    case isFalse hsmall =>
      have hpos : 0 < 2 ^ 52 + b.toNat % 2 ^ 52 := by omega
      simp only [unpacked, hpos, dite_true]
      rfl

section Finite

variable {negative : Bool} {m : Nat} {q : Int}

theorem has_of_ofBits {bits : Nat} (h : ofBits bits = .finite negative m q) :
    Format.binary64.Has m q := by
  unfold ofBits at h
  simp only [Nat.pow_eq] at h
  split at h
  · split at h <;> cases h
  · split at h <;> cases h
    · -- a subnormal number or a zero
      exact ⟨by dsimp [Format.binary64]; omega, by decide, by decide, fun h => absurd h (by decide)⟩
    · exact ⟨by dsimp [Format.binary64]; omega, by dsimp [Format.binary64]; omega,
        by dsimp [Format.binary64]; omega, fun _ => by dsimp [Format.binary64]; omega⟩

theorem toBits_lt (h : Format.binary64.Has m q) : (finite negative m q).toBits < 2 ^ 64 := by
  obtain ⟨hfits, hmin, hmax, hfull⟩ := h
  dsimp [Format.binary64] at hfits hmin hmax hfull
  have hsign : negative.toNat ≤ 1 := Bool.toNat_le negative
  simp only [toBits, Nat.pow_eq]
  split <;> omega

theorem ofBits_toBits (h : Format.binary64.Has m q) :
    ofBits (finite negative m q).toBits = .finite negative m q := by
  obtain ⟨hfits, hmin, hmax, hfull⟩ := h
  dsimp [Format.binary64] at hfits hmin hmax hfull
  have hsign : negative.toNat ≤ 1 := Bool.toNat_le negative
  have hnegative (k : Nat) (hk : k < 2 ^ 63) :
      ((negative.toNat * 2 ^ 63 + k) / 2 ^ 63 % 2 == 1) = negative := by
    have hdiv : (negative.toNat * 2 ^ 63 + k) / 2 ^ 63 % 2 = negative.toNat := by omega
    rw [hdiv]
    cases negative <;> rfl
  simp only [toBits, ofBits, Nat.pow_eq]
  by_cases hsmall : m < 2 ^ 52
  · have hexp : (negative.toNat * 2 ^ 63 + m) / 2 ^ 52 % 2 ^ 11 = 0 := by omega
    have hfrac : (negative.toNat * 2 ^ 63 + m) % 2 ^ 52 = m := by omega
    have hq : q = -1074 := by
      by_contra hne
      exact absurd (hfull (by omega)) (by omega)
    simp only [if_pos hsmall, hexp, hfrac, hnegative m (by omega), hq]
    rfl
  · obtain ⟨e, he⟩ := Int.eq_ofNat_of_zero_le (show 0 ≤ q + 1074 by omega)
    have hexp : (negative.toNat * 2 ^ 63 + (e * 2 ^ 52 + m)) / 2 ^ 52 % 2 ^ 11 = e + 1 := by omega
    have hfrac : (negative.toNat * 2 ^ 63 + (e * 2 ^ 52 + m)) % 2 ^ 52 = m - 2 ^ 52 := by omega
    have hm : 2 ^ 52 + (m - 2 ^ 52) = m := by omega
    have hq : ((e + 1 : Nat) : Int) - 1075 = q := by omega
    have hbits : e * 2 ^ 52 + m < 2 ^ 63 := by omega
    simp only [if_neg hsmall, he, Int.toNat_natCast, hexp, hfrac, hnegative _ hbits]
    rw [if_neg (by omega), if_neg (by omega), hm, hq]

theorem isNaNBits_of_finite {b : BitVec 64} (h : ofBits b.toNat = .finite negative m q) :
    @Float.Model.UnpackedFloat.isNaNBits Float.Model.Format.binary64 b = false := by
  have hones : (-1#11 : BitVec 11).toNat = 2047 := rfl
  unfold ofBits at h
  simp only [Nat.pow_eq] at h
  rw [Float.Model.UnpackedFloat.isNaNBits, decide_eq_false_iff_not, BitVec.toNat_eq, toNat_exponent,
    hones]
  rintro ⟨hexp, -⟩
  rw [if_pos hexp] at h
  split at h <;> cases h

theorem ofFloat_toFloat (h : Format.binary64.Has m q) :
    ofFloat (finite negative m q).toFloat = .finite negative m q := by
  have hbits : (UInt64.ofNat (finite negative m q).toBits).toBitVec.toNat =
      (finite negative m q).toBits := by
    simpa using toBits_lt h
  have hread : ofBits (UInt64.ofNat (finite negative m q).toBits).toBitVec.toNat =
      .finite negative m q := by
    rw [hbits, ofBits_toBits h]
  have htwice : (Float.ofBits (UInt64.ofNat (finite negative m q).toBits)).toBits.toNat =
      (UInt64.ofNat (finite negative m q).toBits).toBitVec.toNat := by
    change (Float.Model.UnpackedFloat.pack Float.Model.Format.binary64
      (Float.Model.UnpackedFloat.unpack Float.Model.Format.binary64 _)).toNat = _
    rw [Float.Model.UnpackedFloat.pack_unpack, isNaNBits_of_finite hread]
    rfl
  rw [ofFloat, toFloat, htwice, hread]

end Finite

end Datum

/-- Only numbers and positive infinity are at least zero, and a negative zero is. -/
theorem zero_le_iff (x : Float) :
    0.0 ≤ x ↔ match Datum.ofFloat x with
      | .finite negative m _ => negative = false ∨ m = 0
      | .infinite negative => negative = false
      | .nan => False := by
  have hunpack : x.toModel.unpack = (Datum.ofFloat x).unpacked := Datum.unpack_eq _
  have hzero : (0.0 : Float).toModel.unpack = .zero .positive := rfl
  have hle : 0.0 ≤ x ↔ ((Float.Model.UnpackedFloat.zero .positive).compare
      (Datum.ofFloat x).unpacked).any (·.isLE) = true := by
    rw [← hunpack, ← hzero]
    change decide ((0.0 : Float).toModel ≤ x.toModel) = true ↔ _
    rw [decide_eq_true_iff]
    rfl
  rw [hle]
  cases Datum.ofFloat x with
  | finite negative m q =>
    by_cases hpos : 0 < m
    · cases negative <;>
        simp [Datum.unpacked, Datum.sign, hpos, Float.Model.UnpackedFloat.compare, hpos.ne']
    · obtain rfl : m = 0 := by omega
      simp [Datum.unpacked, Float.Model.UnpackedFloat.compare]
  | infinite negative =>
    cases negative <;> simp [Datum.unpacked, Datum.sign, Float.Model.UnpackedFloat.compare]
  | nan => simp [Datum.unpacked, Float.Model.UnpackedFloat.compare]

end BoxMin
