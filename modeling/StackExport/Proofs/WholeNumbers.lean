import Mathlib
import StackExport.Decimal.Layout
/-!
Whole numbers that a binary number holds exactly.
-/
namespace StackExport.Proofs.WholeNumbers

open StackExport
open StackExport.Decimal
open Float.Model Float.Model.UnpackedFloat

/-- Where the leading bit of a whole number below `2 ^ 53` has to move. -/
def gap (k : Nat) : Nat := 52 - k.log2

theorem log2_le {k : Nat} (hpos : 0 < k) (hk : k < 2 ^ 53) : k.log2 ≤ 52 := by
  have := (Nat.log2_lt hpos.ne').mpr hk
  omega

theorem log2_shifted {k : Nat} (hpos : 0 < k) (hk : k < 2 ^ 53) : (k <<< gap k).log2 = 52 := by
  have hle := log2_le hpos hk
  have hlow : 2 ^ k.log2 ≤ k := Nat.log2_self_le hpos.ne'
  have hhigh : k < 2 ^ (k.log2 + 1) := Nat.lt_log2_self
  have hsplit : k.log2 + gap k = 52 := by
    rw [gap]
    omega
  have hfar : (2 : Nat) ^ 53 = 2 ^ (k.log2 + 1) * 2 ^ gap k := by
    rw [← pow_add]
    congr 1
    omega
  rw [Nat.shiftLeft_eq, Nat.log2_eq_iff (by positivity)]
  constructor
  · rw [← hsplit, pow_add]
    exact Nat.mul_le_mul_right _ hlow
  · rw [hfar]
    exact Nat.mul_lt_mul_of_pos_right hhigh (by positivity)

theorem shifted_bounds {k : Nat} (hpos : 0 < k) (hk : k < 2 ^ 53) :
    2 ^ 52 ≤ k <<< gap k ∧ k <<< gap k < 2 ^ 53 := by
  have hlog := log2_shifted hpos hk
  have hne : k <<< gap k ≠ 0 := by
    rw [Nat.shiftLeft_eq]
    positivity
  exact (Nat.log2_eq_iff hne).mp hlog

theorem targetExponent_whole {k : Nat} (hpos : 0 < k) (hk : k < 2 ^ 53) :
    Format.binary64.targetExponent (totalExponent k 0) = -(gap k : Int) := by
  have hle := log2_le hpos hk
  simp only [Format.targetExponent, totalExponent, Format.mantissaBits, Format.minExponent, gap]
  norm_num
  omega

theorem shiftToTargetExponent_shifted {k : Nat} (hpos : 0 < k) (hk : k < 2 ^ 53) :
    shiftToTargetExponent Format.binary64 (k <<< gap k) (-(gap k : Int)) .exact =
      (⟨k <<< gap k, false, false⟩, -(gap k : Int)) := by
  have hle := log2_le hpos hk
  have htarget : Format.binary64.targetExponent (totalExponent (k <<< gap k) (-(gap k : Int))) =
      -(gap k : Int) := by
    rw [Format.targetExponent, totalExponent, log2_shifted hpos hk]
    simp only [Format.mantissaBits, Format.minExponent, gap]
    norm_num
    omega
  rw [shiftToTargetExponent, htarget]
  simp [shiftToExponent, ExtendedMantissa.ofMantissaAndAccuracy, HShiftRight.hShiftRight,
    Nat.repeat]

/-- A whole number below `2 ^ 53` is rounded to itself. -/
theorem round_whole {k : Nat} (hpos : 0 < k) (hk : k < 2 ^ 53) :
    ∃ hm, UnpackedFloat.round Format.binary64 .positive k 0 =
      .finite .positive (k <<< gap k) (-(gap k : Int)) hm := by
  have hm : 0 < k <<< gap k := by
    rw [Nat.shiftLeft_eq]
    positivity
  refine ⟨hm, ?_⟩
  have hshift := shiftToTargetExponent_shifted hpos hk
  have hdecrease : decreaseExponent k 0 (-(gap k : Int)) = (k <<< gap k, -(gap k : Int)) := by
    simp [decreaseExponent]
  have hrounded :
      (⟨k <<< gap k, false, false⟩ : ExtendedMantissa).roundedMantissa = k <<< gap k := rfl
  simp only [UnpackedFloat.round, targetExponent_whole hpos hk, hdecrease, roundWithAccuracy,
    hshift, hrounded, dif_neg hm.ne']

theorem toNat_toBits_whole {k : Nat} (hpos : 0 < k) (hk : k < 2 ^ 53) :
    (UInt64.ofNat k).toFloat.toBits.toNat =
      (1023 + k.log2) * 2 ^ 52 + (k <<< gap k - 2 ^ 52) := by
  have hle := log2_le hpos hk
  obtain ⟨hm, hround⟩ := round_whole hpos hk
  have hword : (UInt64.ofNat k).toNat = k := by
    rw [UInt64.toNat_ofNat']
    omega
  have hnormal : UnpackedFloat.normalize Format.binary64 (k : Int) 0 .positive =
      .finite .positive (k <<< gap k) (-(gap k : Int)) hm := by
    have hcompare : compare (k : Int) 0 = .gt := by
      rw [compare_gt_iff_gt]
      exact_mod_cast hpos
    rw [UnpackedFloat.normalize, hcompare]
    exact hround
  have hbits : (UInt64.ofNat k).toFloat.toBits =
      UInt64.ofBitVec (UnpackedFloat.pack Format.binary64
        (UnpackedFloat.normalize Format.binary64 ((UInt64.ofNat k).toNat : Int) 0 .positive)) := rfl
  have hlog := log2_shifted hpos hk
  obtain ⟨hlow, hhigh⟩ := shifted_bounds hpos hk
  have hbiased : (-(gap k : Int) + Format.binary64.exponentBias +
      Format.binary64.mantissaBitsWithoutImplicit).toNat = 1023 + k.log2 := by
    simp only [Format.exponentBias, gap]
    norm_num
    omega
  rw [hbits, hword, hnormal, UnpackedFloat.pack]
  simp only [hbiased, hlog]
  rw [if_neg (by norm_num; omega), if_pos (show 52 + 1 = Format.binary64.mantissaBits from rfl),
    packComponents]
  have happend {n m : Nat} (x : BitVec n) (y : BitVec m) :
      (x ++ y).toNat = x.toNat * 2 ^ m + y.toNat := by
    rw [BitVec.toNat_append, ← Nat.shiftLeft_add_eq_or_of_lt y.isLt, Nat.shiftLeft_eq]
  change (Sign.positive.toBitVec ++ BitVec.ofNat 11 (1023 + k.log2) ++
    BitVec.ofNat 52 (k <<< gap k)).toNat = _
  rw [happend, happend, BitVec.toNat_ofNat, BitVec.toNat_ofNat]
  have hsign : Sign.positive.toBitVec.toNat = 0 := rfl
  rw [hsign]
  omega

theorem Binary.whole?_shifted (k places : Nat) (narrow : Bool) :
    (⟨k <<< places, -(places : Int), narrow⟩ : Binary).whole? = some k := by
  rcases Nat.eq_zero_or_pos places with rfl | hpos
  · simp [Binary.whole?, scale, Nat.mod_one]
  · have hneg : -(places : Int) < 0 := by omega
    have hplaces : (-(-(places : Int))).toNat = places := by omega
    have htwo : 0 < 2 ^ places := by positivity
    simp [Binary.whole?, scale, hpos, Nat.shiftLeft_eq]

theorem whole?_toFloat {k : Nat} (hk : k < 2 ^ 53) :
    whole? (UInt64.ofNat k).toFloat = some (k : Int) := by
  rcases Nat.eq_zero_or_pos k with rfl | hpos
  · have hbits : (UInt64.ofNat 0).toFloat.toBits = 0 := rfl
    have hbinary : Binary.ofBits 0 = ⟨0 <<< 1074, -((1074 : Nat) : Int), false⟩ := by
      simp [Binary.ofBits]
    rw [whole?, hbits, hbinary, Binary.whole?_shifted]
    simp
  have hle := log2_le hpos hk
  obtain ⟨hlow, hhigh⟩ := shifted_bounds hpos hk
  have hbits := toNat_toBits_whole hpos hk
  have hfraction : (UInt64.ofNat k).toFloat.toBits.toNat % Nat.pow 2 52 = k <<< gap k - 2 ^ 52 := by
    rw [hbits, Nat.pow_eq]
    omega
  have hbiased : (UInt64.ofNat k).toFloat.toBits.toNat / Nat.pow 2 52 % Nat.pow 2 11 =
      1023 + k.log2 := by
    rw [hbits, Nat.pow_eq, Nat.pow_eq]
    omega
  have hsign : (UInt64.ofNat k).toFloat.toBits.toNat / Nat.pow 2 63 = 0 := by
    rw [hbits, Nat.pow_eq]
    omega
  have hbinary : ∃ narrow, Binary.ofBits (UInt64.ofNat k).toFloat.toBits =
      ⟨k <<< gap k, -(gap k : Int), narrow⟩ := by
    refine ⟨k <<< gap k - 2 ^ 52 == 0 && 1023 + k.log2 != 1, ?_⟩
    rw [Binary.ofBits, hfraction, hbiased, if_neg (by omega), gap, Nat.pow_eq]
    congr 1
    · exact Nat.sub_add_cancel hlow
    · omega
  obtain ⟨narrow, hbinary⟩ := hbinary
  rw [whole?, hbiased, hsign, hbinary, Binary.whole?_shifted, Nat.pow_eq, if_neg (by omega)]
  rfl

end StackExport.Proofs.WholeNumbers
