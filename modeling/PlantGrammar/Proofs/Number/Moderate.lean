import PlantGrammar.Number.Angle
import PlantGrammar.Proofs.Number.Binary

/-! # Numbers of moderate size

Take a number below `2 ^ 63` and a step below `2 ^ 6`. Their sum is rounded to a number below
`2 ^ 63`: where the units of such numbers are largest, they are `2 ^ 10`, and the step is less than
half of one. Steps can be added and subtracted without end, and no number becomes infinite.
-/
namespace PlantGrammar.Number
open Float.Model UnpackedFloat

/-- A finite number whose last digit has at most the weight `2 ^ k`. -/
def Magnitude.Within (k : ℤ) : Magnitude → Prop
  | .finite v => v.exponent ≤ k
  | _ => False

instance (k : ℤ) : (m : Magnitude) → Decidable (m.Within k)
  | .nan => isFalse id
  | .infinite _ => isFalse id
  | .finite v => inferInstanceAs (Decidable (v.exponent ≤ k))

theorem Magnitude.Within.mono {j k : ℤ} {m : Magnitude} (hjk : j ≤ k) (h : m.Within j) : m.Within k := by
  cases m with
  | nan => exact h
  | infinite => exact h
  | finite v => exact Int.le_trans h hjk

section
variable (em : ExtendedMantissa) (n : ℕ)

theorem mantissa_shiftRight : (em >>> n).mantissa = em.mantissa / 2 ^ n := by
  induction n with
  | zero => exact (Nat.div_one _).symm
  | succ n ih =>
    change (em >>> n).mantissa / 2 = _
    rw [ih, Nat.div_div_eq_div_mul, Nat.pow_succ]

theorem roundBit_shiftRight_succ :
    (em >>> (n + 1)).roundBit = (em.mantissa / 2 ^ n % 2 != 0) := by
  change ((em >>> n).mantissa % 2 != 0) = _
  rw [mantissa_shiftRight]

theorem roundedMantissa_le : em.roundedMantissa ≤ em.mantissa + 1 := by
  obtain ⟨m, roundBit, stickyBit⟩ := em
  cases roundBit <;> cases stickyBit
  · exact Nat.le_succ m
  · exact Nat.le_succ m
  · change m + m % 2 ≤ m + 1
    omega
  · exact Nat.le_refl (m + 1)

theorem roundedMantissa_of_roundBit (h : em.roundBit = false) : em.roundedMantissa = em.mantissa := by
  obtain ⟨m, roundBit, stickyBit⟩ := em
  cases h
  cases stickyBit <;> rfl

end

theorem shiftToTargetExponent_snd (m : ℕ) (e : ℤ) (a : Accuracy) :
    (shiftToTargetExponent .binary64 m e a).2 = max e (max (m.log2 + 1 + e - 53) (-1074)) := by
  change e + ((max ((m.log2 : ℤ) + 1 + e - 53) (-1074) - e).toNat : ℕ) = _
  omega

theorem shiftToTargetExponent_fst (m : ℕ) (e : ℤ) :
    (shiftToTargetExponent .binary64 m e .exact).1 =
      (⟨m, false, false⟩ : ExtendedMantissa) >>> (max ((m.log2 : ℤ) + 1 + e - 53) (-1074) - e).toNat :=
  rfl

/-- The exponent is that of the second shift, after the rounding. -/
theorem within_roundWithAccuracy_of {s : Sign} {m : ℕ} {e k : ℤ} {a : Accuracy} (hk : -1074 ≤ k)
    (h : (shiftToTargetExponent .binary64 (shiftToTargetExponent .binary64 m e a).1.roundedMantissa
      (shiftToTargetExponent .binary64 m e a).2 .exact).2 ≤ k) :
    (Magnitude.ofUnpacked (roundWithAccuracy .binary64 s m e a)).Within k := by
  unfold roundWithAccuracy
  dsimp only
  split
  · exact hk
  · exact h

theorem log2_lt_of_lt {m n : ℕ} (h : m < 2 ^ (n + 1)) : m.log2 < n + 1 := by
  by_cases hm : m = 0
  · subst hm
    exact Nat.succ_pos n
  · exact (Nat.log2_lt hm).mpr h

theorem roundedMantissa_lt {m k : ℕ} (h : 2 * m < (2 ^ 54 - 1) * 2 ^ k) :
    ((⟨m, false, false⟩ : ExtendedMantissa) >>> k).roundedMantissa < 2 ^ 53 := by
  cases k with
  | zero =>
    change (⟨m, false, false⟩ : ExtendedMantissa).roundedMantissa < 2 ^ 53
    rw [roundedMantissa_of_roundBit _ rfl]
    dsimp only
    omega
  | succ k =>
    have hmantissa := mantissa_shiftRight ⟨m, false, false⟩ (k + 1)
    have hbit := roundBit_shiftRight_succ ⟨m, false, false⟩ k
    have hhalf : m / 2 ^ k < 2 ^ 54 - 1 := by
      rw [Nat.div_lt_iff_lt_mul (Nat.two_pow_pos k)]
      rw [Nat.pow_succ] at h
      omega
    rw [Nat.pow_succ, ← Nat.div_div_eq_div_mul] at hmantissa
    dsimp only at hmantissa hbit
    generalize m / 2 ^ k = q at hmantissa hbit hhalf
    generalize (⟨m, false, false⟩ : ExtendedMantissa) >>> (k + 1) = em at hmantissa hbit ⊢
    have hrounded := roundedMantissa_le em
    by_cases heven : q % 2 = 0
    · have hdown := roundedMantissa_of_roundBit em (by rw [hbit, heven]; rfl)
      omega
    · omega

/-- What is half a unit `2 ^ 10` or more below `2 ^ 63` rounds to a number below `2 ^ 63`. -/
theorem within_roundWithAccuracy (s : Sign) {m k : ℕ} (h : 2 * m < (2 ^ 54 - 1) * 2 ^ k) :
    (Magnitude.ofUnpacked (roundWithAccuracy .binary64 s m (10 - k) .exact)).Within 10 := by
  apply within_roundWithAccuracy_of (by decide)
  have hm : m < 2 ^ (52 + k + 1) := by
    have hpow : 2 ^ (52 + k + 1) = 2 ^ 53 * 2 ^ k := by ring
    omega
  have hlog : m.log2 < 52 + k + 1 := log2_lt_of_lt hm
  rw [shiftToTargetExponent_snd, shiftToTargetExponent_snd, shiftToTargetExponent_fst]
  generalize hn : (max ((m.log2 : ℤ) + 1 + (10 - k) - 53) (-1074) - (10 - k)).toNat = n
  generalize hem : (⟨m, false, false⟩ : ExtendedMantissa) >>> n = em
  have hmantissa : em.mantissa = m / 2 ^ n := by
    rw [← hem]
    exact mantissa_shiftRight _ n
  have hdigits : em.mantissa < 2 ^ 53 := by
    rw [hmantissa, Nat.div_lt_iff_lt_mul (Nat.two_pow_pos n), ← Nat.pow_add]
    exact Nat.lt_log2_self.trans_le (Nat.pow_le_pow_right (by decide) (by omega))
  have hrounded := roundedMantissa_le em
  by_cases hlast : n < k
  · have hlog' : em.roundedMantissa.log2 < 53 + 1 := log2_lt_of_lt (by omega)
    omega
  · have hnk : n = k := by omega
    have hless : em.roundedMantissa < 2 ^ 53 := by
      rw [← hem, hnk]
      exact roundedMantissa_lt h
    have hlog' : em.roundedMantissa.log2 < 52 + 1 := log2_lt_of_lt hless
    omega

theorem within_round (s : Sign) {m k : ℕ} (h : 2 * m < (2 ^ 54 - 1) * 2 ^ k) :
    (Magnitude.ofUnpacked (UnpackedFloat.round .binary64 s m (10 - k))).Within 10 := by
  unfold UnpackedFloat.round decreaseExponent
  dsimp only
  generalize hn : ((10 - k : ℤ) - Format.binary64.targetExponent (totalExponent m (10 - k))).toNat = n
  have hexponent : (10 - k : ℤ) - n = 10 - (k + n : ℕ) := by omega
  rw [hexponent, Nat.shiftLeft_eq]
  apply within_roundWithAccuracy
  rw [Nat.pow_add, ← Nat.mul_assoc, ← Nat.mul_assoc]
  exact Nat.mul_lt_mul_of_pos_right h (Nat.two_pow_pos n)

theorem within_normalize (s : Sign) {m : ℤ} {k : ℕ} (h : 2 * m.natAbs < (2 ^ 54 - 1) * 2 ^ k) :
    (Magnitude.ofUnpacked (UnpackedFloat.normalize .binary64 m (10 - k) s)).Within 10 := by
  unfold UnpackedFloat.normalize
  split
  · rename_i hneg
    apply within_round
    have : m < 0 := compare_lt_iff_lt.mp hneg
    omega
  · exact (by decide : (-1074 : ℤ) ≤ 10)
  · rename_i hpos
    apply within_round
    have : 0 < m := compare_gt_iff_gt.mp hpos
    omega

section
variable {x d : UnpackedFloat}

/-- The digits of a significand. -/
def Short : Magnitude → Prop
  | .finite v => v.significand < 2 ^ 53
  | _ => True

theorem short_unpack (x : Float) : Short (Magnitude.ofUnpacked x.toModel.unpack) := by
  rw [Magnitude.ofUnpacked_unpack]
  cases h : Magnitude.ofFloat x with
  | nan => trivial
  | infinite => trivial
  | finite v => exact (Magnitude.canonical_of_ofBits h).significand_lt

theorem natAbs_apply (s : Sign) (n : ℕ) : (s.apply n).natAbs = n := by
  cases s
  · exact Int.natAbs_neg n
  · rfl

theorem finite_of_within {k : ℤ} (h : (Magnitude.ofUnpacked x).Within k) :
    (∃ s, x = .zero s) ∨ ∃ s m e hm, x = .finite s m e hm ∧ e ≤ k := by
  cases x with
  | infinity => exact h.elim
  | notANumber => exact h.elim
  | zero s => exact .inl ⟨s, rfl⟩
  | finite s m e hm => exact .inr ⟨s, m, e, hm, rfl, h⟩

/-- A number with units `2 ^ 10` and one with units `2 ^ -47`, aligned at the lower unit. -/
theorem aligned_lt {m₁ m₂ : ℕ} {e₁ e₂ : ℤ} (hm₁ : m₁ < 2 ^ 53) (hm₂ : m₂ < 2 ^ 53) (he₁ : e₁ ≤ 10)
    (he₂ : e₂ ≤ -47) :
    2 * (m₁ <<< (e₁ - min e₁ e₂).toNat + m₂ <<< (e₂ - min e₁ e₂).toNat) <
      (2 ^ 54 - 1) * 2 ^ (10 - min e₁ e₂).toNat := by
  obtain ⟨p, hp⟩ : ∃ p : ℕ, min e₁ e₂ = -47 - p := ⟨(-47 - min e₁ e₂).toNat, by omega⟩
  have hunit : (10 - min e₁ e₂).toNat = 57 + p := by omega
  have h₁ : m₁ <<< (e₁ - min e₁ e₂).toNat ≤ (2 ^ 53 - 1) * 2 ^ (57 + p) := by
    rw [Nat.shiftLeft_eq]
    exact Nat.mul_le_mul (by omega) (Nat.pow_le_pow_right (by decide) (by omega))
  have h₂ : m₂ <<< (e₂ - min e₁ e₂).toNat ≤ (2 ^ 53 - 1) * 2 ^ p := by
    rw [Nat.shiftLeft_eq]
    exact Nat.mul_le_mul (by omega) (Nat.pow_le_pow_right (by decide) (by omega))
  have hpos : 0 < 2 ^ p := Nat.two_pow_pos p
  rw [hunit]
  rw [Nat.pow_add] at h₁ ⊢
  omega

/-- The sum or difference of two such numbers. -/
theorem within_normalize_aligned {m₁ m₂ : ℕ} {e₁ e₂ m : ℤ} (s : Sign) (hm₁ : m₁ < 2 ^ 53)
    (hm₂ : m₂ < 2 ^ 53) (he₁ : e₁ ≤ 10) (he₂ : e₂ ≤ -47)
    (hm : m.natAbs ≤ m₁ <<< (e₁ - min e₁ e₂).toNat + m₂ <<< (e₂ - min e₁ e₂).toNat) :
    (Magnitude.ofUnpacked (UnpackedFloat.normalize .binary64 m (min e₁ e₂) s)).Within 10 := by
  have hlt := aligned_lt hm₁ hm₂ he₁ he₂
  have hexponent : min e₁ e₂ = 10 - ((10 - min e₁ e₂).toNat : ℤ) := by omega
  rw [hexponent]
  apply within_normalize
  omega

theorem within_add (hx : Short (.ofUnpacked x)) (hd : Short (.ofUnpacked d))
    (hx10 : (Magnitude.ofUnpacked x).Within 10) (hd47 : (Magnitude.ofUnpacked d).Within (-47)) :
    (Magnitude.ofUnpacked (add .binary64 x d)).Within 10 := by
  obtain ⟨s, rfl⟩ | ⟨s₁, m₁, e₁, hm₁, rfl, he₁⟩ := finite_of_within hx10
  · obtain ⟨t, rfl⟩ | ⟨s₂, m₂, e₂, hm₂, rfl, -⟩ := finite_of_within hd47
    · unfold UnpackedFloat.add
      dsimp only
      split <;> exact hx10
    · exact hd47.mono (by decide)
  · obtain ⟨t, rfl⟩ | ⟨s₂, m₂, e₂, hm₂, rfl, he₂⟩ := finite_of_within hd47
    · exact hx10
    · apply within_normalize_aligned _ hx hd he₁ he₂
      refine (Int.natAbs_add_le _ _).trans ?_
      rw [natAbs_apply, natAbs_apply]

theorem within_sub (hx : Short (.ofUnpacked x)) (hd : Short (.ofUnpacked d))
    (hx10 : (Magnitude.ofUnpacked x).Within 10) (hd47 : (Magnitude.ofUnpacked d).Within (-47)) :
    (Magnitude.ofUnpacked (sub .binary64 x d)).Within 10 := by
  obtain ⟨s, rfl⟩ | ⟨s₁, m₁, e₁, hm₁, rfl, he₁⟩ := finite_of_within hx10
  · obtain ⟨t, rfl⟩ | ⟨s₂, m₂, e₂, hm₂, rfl, -⟩ := finite_of_within hd47
    · unfold UnpackedFloat.sub
      dsimp only
      split <;> exact hx10
    · exact hd47.mono (by decide)
  · obtain ⟨t, rfl⟩ | ⟨s₂, m₂, e₂, hm₂, rfl, he₂⟩ := finite_of_within hd47
    · exact hx10
    · apply within_normalize_aligned _ hx hd he₁ he₂
      refine (Int.natAbs_sub_le _ _).trans ?_
      rw [natAbs_apply, natAbs_apply]

theorem within_mul_finite (s : Sign) {m₁ m₂ : ℕ} {e₁ e₂ : ℤ} (hm₁ : m₁ < 2 ^ 53) (hm₂ : m₂ < 2 ^ 53)
    (he₁ : e₁ ≤ 10) (he₂ : e₂ ≤ -54) : (Magnitude.ofUnpacked
      (roundWithAccuracy .binary64 s (m₁ * m₂) (e₁ + e₂) .exact)).Within 10 := by
  have hproduct : m₁ * m₂ ≤ (2 ^ 53 - 1) * (2 ^ 53 - 1) := Nat.mul_le_mul (by omega) (by omega)
  obtain ⟨k, hk⟩ : ∃ k : ℕ, e₁ + e₂ = 10 - (54 + k : ℕ) := ⟨(-44 - (e₁ + e₂)).toNat, by omega⟩
  rw [hk]
  apply within_roundWithAccuracy
  have hpos : 0 < 2 ^ k := Nat.two_pow_pos k
  rw [Nat.pow_add]
  omega

/-- The factor is below a half. -/
theorem within_mul (hx : Short (.ofUnpacked x)) (hd : Short (.ofUnpacked d))
    (hx10 : (Magnitude.ofUnpacked x).Within 10) (hd54 : (Magnitude.ofUnpacked d).Within (-54)) :
    (Magnitude.ofUnpacked (mul .binary64 x d)).Within 10 := by
  obtain ⟨s, rfl⟩ | ⟨s₁, m₁, e₁, hm₁, rfl, he₁⟩ := finite_of_within hx10
  · obtain ⟨t, rfl⟩ | ⟨s₂, m₂, e₂, hm₂, rfl, -⟩ := finite_of_within hd54
    · exact hx10
    · exact hx10
  · obtain ⟨t, rfl⟩ | ⟨s₂, m₂, e₂, hm₂, rfl, he₂⟩ := finite_of_within hd54
    · exact hd54.mono (by decide)
    · exact within_mul_finite _ hx hd he₁ he₂

end

theorem within_unpack {b : BitVec 64} (h : (@unpackExponent .binary64 b).toNat ≤ 1085) :
    (Magnitude.ofUnpacked (UnpackedFloat.unpack .binary64 b)).Within 10 := by
  have hbias : (Format.binary64.exponentBias : ℤ) + Format.binary64.mantissaBitsWithoutImplicit = 1075 :=
    rfl
  unfold UnpackedFloat.unpack
  dsimp only
  split
  · rename_i hall
    rw [hall] at h
    exact absurd h (by decide)
  · split
    · rename_i hnone
      split
      · exact (by decide : (-1074 : ℤ) ≤ 10)
      · rw [hbias, hnone]
        exact (by decide : (-1074 : ℤ) ≤ 10)
    · rw [hbias]
      change ((@unpackExponent .binary64 b).toNat : ℤ) - 1075 ≤ 10
      omega

/-- Packing keeps the exponent or takes the least one. -/
theorem within_pack {u : UnpackedFloat} (h : (Magnitude.ofUnpacked u).Within 10) :
    (Magnitude.ofUnpacked (UnpackedFloat.unpack .binary64 (UnpackedFloat.pack .binary64 u))).Within 10 := by
  apply within_unpack
  cases u with
  | infinity => exact h.elim
  | notANumber => exact h.elim
  | zero s =>
    change (unpackExponent (packComponents .binary64 s 0 0)).toNat ≤ 1085
    rw [unpackExponent_packComponents]
    decide
  | finite s m e =>
    have he : e ≤ 10 := h
    have hbiased : (e + Format.binary64.exponentBias + Format.binary64.mantissaBitsWithoutImplicit).toNat ≤
        1085 := by
      change (e + 1023 + 52).toNat ≤ 1085
      omega
    unfold UnpackedFloat.pack
    dsimp only
    generalize (e + Format.binary64.exponentBias + Format.binary64.mantissaBitsWithoutImplicit).toNat = n
      at hbiased ⊢
    split
    · omega
    · split
      · rw [unpackExponent_packComponents, BitVec.toNat_ofNat]
        exact (Nat.mod_le _ _).trans hbiased
      · rw [unpackExponent_packComponents]
        decide

section
variable {x d : Float}

theorem within_add_float (hx : (Magnitude.ofFloat x).Within 10)
    (hd : (Magnitude.ofFloat d).Within (-47)) :
    (Magnitude.ofFloat (x + d)).Within 10 := by
  rw [← Magnitude.ofUnpacked_unpack] at hx hd ⊢
  exact within_pack (within_add (short_unpack x) (short_unpack d) hx hd)

theorem within_sub_float (hx : (Magnitude.ofFloat x).Within 10)
    (hd : (Magnitude.ofFloat d).Within (-47)) :
    (Magnitude.ofFloat (x - d)).Within 10 := by
  rw [← Magnitude.ofUnpacked_unpack] at hx hd ⊢
  exact within_pack (within_sub (short_unpack x) (short_unpack d) hx hd)

theorem isInf_radians (hx : (Magnitude.ofFloat x).Within 10) : (radians x).isInf = false := by
  have hfactor : (Magnitude.ofFloat (pi / 180)).Within (-54) := by decide +kernel
  rw [← Magnitude.ofUnpacked_unpack] at hx hfactor
  have hproduct : (Magnitude.ofUnpacked (radians x).toModel.unpack).Within 10 :=
    within_pack (within_mul (short_unpack x) (short_unpack (pi / 180)) hx hfactor)
  change (radians x).toModel.unpack.isInf = false
  cases h : (radians x).toModel.unpack with
  | infinity =>
    rw [h] at hproduct
    exact hproduct.elim
  | notANumber => rfl
  | zero => rfl
  | finite => rfl

end
end PlantGrammar.Number
