import Mathlib
import PlantGrammar.Number.Rounding

/-! # The nearest integer

A number has one nearest integer when the even one of two equally near ones is taken. Rounding a
finite double finds it for the exact value of the double.
-/
namespace PlantGrammar.Number
variable {q f : ℚ} {k m n : ℤ}

/-- At most a half away, and even if exactly a half. -/
def NearestEven (q : ℚ) (n : ℤ) : Prop := |q - n| ≤ 1 / 2 ∧ (|q - n| = 1 / 2 → Even n)

/-- Two nearest integers would be neighbours, both half away, and only one of them is even. -/
theorem NearestEven.unique (hm : NearestEven q m) (hn : NearestEven q n) : m = n := by
  by_contra hne
  have hfar : (1 : ℚ) ≤ |(m : ℚ) - n| := by
    have habs : (1 : ℤ) ≤ |m - n| := Int.one_le_abs (sub_ne_zero.mpr hne)
    exact_mod_cast habs
  have hnear : |(m : ℚ) - n| ≤ |q - m| + |q - n| := by
    have h := abs_sub_le (m : ℚ) q n
    rwa [abs_sub_comm (m : ℚ) q] at h
  have hm' := hm.1
  have hn' := hn.1
  have heven : Even (m - n) := (hm.2 (by linarith)).sub (hn.2 (by linarith))
  have hone : |m - n| = 1 := by
    have hle : |(m : ℚ) - n| = 1 := by linarith
    exact_mod_cast hle
  rw [← even_abs, hone] at heven
  exact absurd heven (by decide)

theorem NearestEven.neg (h : NearestEven q n) : NearestEven (-q) (-n) := by
  have habs : |-q - ((-n : ℤ) : ℚ)| = |q - n| := by
    rw [Int.cast_neg, ← neg_sub', abs_neg]
  rw [NearestEven, habs]
  exact ⟨h.1, fun hhalf => (h.2 hhalf).neg⟩

theorem nearestEven_down (hf : 0 ≤ f) (hhalf : f ≤ 1 / 2) (heven : f = 1 / 2 → Even k) :
    NearestEven (k + f) k := by
  rw [NearestEven, add_sub_cancel_left, abs_of_nonneg hf]
  exact ⟨hhalf, heven⟩

theorem nearestEven_up (hf : f ≤ 1) (hhalf : 1 / 2 ≤ f) (heven : f = 1 / 2 → Even (k + 1)) :
    NearestEven (k + f) (k + 1) := by
  have hrest : (k : ℚ) + f - (k + 1 : ℤ) = -(1 - f) := by
    push_cast
    ring
  rw [NearestEven, hrest, abs_neg, abs_of_nonneg (by linarith)]
  exact ⟨by linarith, fun h => heven (by linarith)⟩

theorem nearestEven_intCast (n : ℤ) : NearestEven n n := by
  have h := nearestEven_down (k := n) le_rfl (by norm_num) (fun h => by norm_num at h)
  rwa [add_zero] at h

theorem div_le_half_iff {r den : ℕ} (hden : 0 < den) : (r : ℚ) / den ≤ 1 / 2 ↔ 2 * r ≤ den := by
  rw [div_le_div_iff₀ (Nat.cast_pos.mpr hden) two_pos, one_mul, mul_comm]
  exact_mod_cast Iff.rfl

theorem half_le_div_iff {r den : ℕ} (hden : 0 < den) : 1 / 2 ≤ (r : ℚ) / den ↔ den ≤ 2 * r := by
  rw [div_le_div_iff₀ two_pos (Nat.cast_pos.mpr hden), one_mul, mul_comm]
  exact_mod_cast Iff.rfl

theorem div_eq_div_add_mod (num : ℕ) {den : ℕ} (hden : 0 < den) :
    (num : ℚ) / den = ((num / den : ℕ) : ℤ) + (num % den : ℕ) / den := by
  have hpos : (den : ℚ) ≠ 0 := Nat.cast_ne_zero.mpr hden.ne'
  rw [Int.cast_natCast, div_eq_iff hpos, add_mul, div_mul_cancel₀ _ hpos]
  exact_mod_cast (Nat.div_add_mod' num den).symm

theorem nearestEven_roundQuotient (num : ℕ) {den : ℕ} (hden : 0 < den) :
    NearestEven (num / den) (roundQuotient num den) := by
  have hlt : num % den < den := Nat.mod_lt num hden
  rw [div_eq_div_add_mod num hden]
  unfold roundQuotient
  dsimp only
  generalize num % den = r at hlt ⊢
  have hnonneg : (0 : ℚ) ≤ r / den := by positivity
  have hone : (r : ℚ) / den ≤ 1 := div_le_one_of_le₀ (Nat.cast_le.mpr hlt.le) (Nat.cast_nonneg den)
  have hle := div_le_half_iff (r := r) hden
  have hge := half_le_div_iff (r := r) hden
  split_ifs with hdown hup heven
  · exact nearestEven_down hnonneg (hle.mpr hdown.le) fun h => absurd (hge.mp h.ge) hdown.not_ge
  · exact nearestEven_up hone (hge.mpr hup.le) fun h => absurd (hle.mp h.le) hup.not_ge
  · exact nearestEven_down hnonneg (hle.mpr (by omega)) fun _ =>
      (Int.even_coe_nat _).mpr (Nat.even_iff.mpr heven)
  · exact nearestEven_up hone (hge.mpr (by omega)) fun _ =>
      (Int.even_coe_nat (_ + 1)).mpr (Nat.even_iff.mpr (by omega))

namespace BinaryFraction

/-- The exact value. -/
def value (v : BinaryFraction) : ℚ :=
  (if v.negative then -1 else 1) * (v.significand * 2 ^ v.exponent)

theorem ratio_spec (v : BinaryFraction) : 0 < v.ratio.2 ∧
    (v.ratio.1 / v.ratio.2 : ℚ) = v.significand * 2 ^ v.exponent := by
  unfold ratio
  cases v.exponent with
  | ofNat e =>
    refine ⟨Nat.one_pos, ?_⟩
    change ((v.significand * 2 ^ e : ℕ) / (1 : ℕ) : ℚ) = v.significand * 2 ^ (e : ℤ)
    push_cast
    rw [div_one, zpow_natCast]
  | negSucc e =>
    refine ⟨Nat.two_pow_pos (e + 1), ?_⟩
    change (v.significand / (2 ^ (e + 1) : ℕ) : ℚ) = v.significand * 2 ^ Int.negSucc e
    rw [zpow_negSucc, div_eq_mul_inv]
    push_cast
    rfl

theorem nearestEven_round (v : BinaryFraction) : NearestEven v.value v.round := by
  obtain ⟨hpos, hratio⟩ := v.ratio_spec
  have hmagnitude := nearestEven_roundQuotient v.ratio.1 hpos
  rw [hratio] at hmagnitude
  unfold value round
  dsimp only
  cases v.negative with
  | false => simpa using hmagnitude
  | true => simpa using hmagnitude.neg

end BinaryFraction
end PlantGrammar.Number
