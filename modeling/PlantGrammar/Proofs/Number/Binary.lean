import Mathlib
import PlantGrammar.Number.Binary

/-! # One reading of the bits

Arithmetic and comparison of doubles are defined on an unpacked form. It is the sign, significand and
power of two that `Magnitude` reads, and the three are canonical: a significand has fifty-three
digits, unless the exponent is the least one.
-/
namespace PlantGrammar.Number
open Float.Model

def isNegative : UnpackedFloat.Sign → Bool
  | .negative => true
  | .positive => false

theorem isNegative_ofBitVec (b : BitVec 1) : isNegative (.ofBitVec b) = decide (1 ≤ b.toNat) := by
  revert b
  decide

theorem eq_nan_of_isNaN {x : Float} (h : x.isNaN = true) : x = .nan := by
  rw [Float.isNaN_eq_decide_eq_nan] at h
  exact of_decide_eq_true h

section
variable (b : BitVec 64)

theorem toNat_unpackExponent : (@UnpackedFloat.unpackExponent .binary64 b).toNat =
    b.toNat / exponentWeight % 2048 := by
  rw [UnpackedFloat.unpackExponent_def, BitVec.extractLsb'_toNat, Nat.shiftRight_eq_div_pow]
  rfl

theorem toNat_unpackMantissa : (@UnpackedFloat.unpackMantissa .binary64 b).toNat =
    b.toNat % exponentWeight := by
  rw [UnpackedFloat.unpackMantissa_def, BitVec.extractLsb'_toNat, Nat.shiftRight_zero]
  rfl

theorem isNegative_unpackSign :
    isNegative (.ofBitVec (@UnpackedFloat.unpackSign .binary64 b)) =
      decide (signWeight ≤ b.toNat) := by
  have hlt := b.isLt
  rw [isNegative_ofBitVec, UnpackedFloat.unpackSign_def, BitVec.extractLsb'_toNat,
    Nat.shiftRight_eq_div_pow, decide_eq_decide]
  change 1 ≤ b.toNat / 9223372036854775808 % 2 ↔ 9223372036854775808 ≤ b.toNat
  omega

end

namespace Magnitude
variable {bits : UInt64} {v : BinaryFraction} {x : Float}

def ofUnpacked : UnpackedFloat → Magnitude
  | .infinity s => .infinite (isNegative s)
  | .notANumber => .nan
  | .zero s => .finite ⟨isNegative s, 0, -1074⟩
  | .finite s m e _ => .finite ⟨isNegative s, m, e⟩

theorem ofUnpacked_unpack (x : Float) : ofUnpacked x.toModel.unpack = ofFloat x := by
  have hbits : x.toModel.unpack = UnpackedFloat.unpack .binary64 x.toBits.toBitVec := rfl
  have hword : x.toBits.toBitVec.toNat = x.toBits.toNat := rfl
  rw [hbits, ofFloat, ofBits, ← hword]
  generalize x.toBits.toBitVec = b
  have he := toNat_unpackExponent b
  have hm := toNat_unpackMantissa b
  have hs := isNegative_unpackSign b
  have hall : @UnpackedFloat.unpackExponent .binary64 b = -1#11 ↔
      b.toNat / exponentWeight % 2048 = 2047 := by
    rw [← BitVec.toNat_inj, he]
    rfl
  have hnone : @UnpackedFloat.unpackExponent .binary64 b = 0#11 ↔
      b.toNat / exponentWeight % 2048 = 0 := by
    rw [← BitVec.toNat_inj, he]
    rfl
  have hzero : @UnpackedFloat.unpackMantissa .binary64 b = 0#52 ↔
      b.toNat % exponentWeight = 0 := by
    rw [← BitVec.toNat_inj, hm]
    rfl
  have hlead : (1#1 ++ @UnpackedFloat.unpackMantissa .binary64 b).toNat =
      exponentWeight + b.toNat % exponentWeight := by
    rw [BitVec.toNat_append, ← Nat.shiftLeft_add_eq_or_of_lt (BitVec.isLt _), hm]
    rfl
  have hbias : (Format.binary64.exponentBias : ℤ) + Format.binary64.mantissaBitsWithoutImplicit = 1075 :=
    rfl
  unfold UnpackedFloat.unpack
  simp only [hall, hnone, hzero, hbias, he, hm]
  split
  · split
    · rw [ofUnpacked, hs]
    · rfl
  · split
    · rename_i he0
      split
      · rename_i hm0
        rw [ofUnpacked, hs, hm0]
      · rw [ofUnpacked, hs, he0]
        rfl
    · rw [ofUnpacked, hs, hlead]

/-- What the bits of a finite double can be. -/
structure Canonical (bits : UInt64) (v : BinaryFraction) : Prop where
  negative_eq : v.negative = decide (signWeight ≤ bits.toNat)
  bits_eq : (bits.toNat % signWeight : ℕ) = (v.exponent + 1074) * exponentWeight + v.significand
  significand_lt : v.significand < 2 * exponentWeight
  least : -1074 ≤ v.exponent
  greatest : v.exponent ≤ 971
  leading : v.exponent = -1074 ∨ exponentWeight ≤ v.significand

theorem mod_signWeight (n : ℕ) :
    n % signWeight = n / exponentWeight % 2048 * exponentWeight + n % exponentWeight := by
  change n % 9223372036854775808 = n / 4503599627370496 % 2048 * 4503599627370496 + n % 4503599627370496
  omega

theorem canonical_of_ofBits (h : ofBits bits = .finite v) : Canonical bits v := by
  have hbits := mod_signWeight bits.toNat
  have hfraction : bits.toNat % exponentWeight < exponentWeight := Nat.mod_lt _ (by decide)
  have he : bits.toNat / exponentWeight % 2048 < 2048 := Nat.mod_lt _ (by decide)
  unfold ofBits at h
  dsimp only at h
  generalize bits.toNat / exponentWeight % 2048 = e at h hbits he
  generalize bits.toNat % exponentWeight = m at h hbits hfraction
  split at h
  · split at h <;> cases h
  · split at h
    · rename_i hsubnormal
      cases h
      refine ⟨rfl, ?_, ?_, ?_, ?_, .inl rfl⟩ <;> dsimp only
      · rw [hbits, hsubnormal]
        simp
      · omega
      · omega
      · omega
    · cases h
      refine ⟨rfl, ?_, ?_, ?_, ?_, .inr ?_⟩ <;> dsimp only
      · rw [hbits]
        push_cast
        ring
      all_goals omega

end Magnitude
end PlantGrammar.Number
