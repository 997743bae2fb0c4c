import PlantGrammar.Proofs.Number.HalfEven
import PlantGrammar.Proofs.Number.Order

/-! # Numbers within bounds

No comparison holds of a NaN. So a double that compares above zero, or from zero to one, has an exact
value there, or is infinite where the bound leaves that open.
-/
namespace PlantGrammar.Number
open Float.Model
variable {x y : Float}

theorem value_positive (m : ℕ) (e : ℤ) : BinaryFraction.value ⟨false, m, e⟩ = m * 2 ^ e := by
  simp [BinaryFraction.value]

theorem lt_iff_compare :
    x < y ↔ x.toModel.unpack.compare y.toModel.unpack = some .lt := by
  have hlt : x < y ↔ x.toModel < y.toModel := decide_eq_true_iff
  rw [hlt, ← beq_iff_eq]
  rfl

theorem isNaN_of_le (h : x ≤ y) : x.isNaN = false ∧ y.isNaN = false := by
  constructor
  · cases hx : x.isNaN with
    | false => rfl
    | true =>
      rw [eq_nan_of_isNaN hx] at h
      have hle : (Float.nan.toModel.unpack.compare y.toModel.unpack).any (·.isLE) = true :=
        decide_eq_true_iff.mp h
      cases hle
  · cases hy : y.isNaN with
    | false => rfl
    | true =>
      rw [eq_nan_of_isNaN hy] at h
      exact absurd h (not_le_nan x)

/-- Positive infinity, or a finite number above zero. -/
def IsPositive (x : Float) : Prop :=
  Magnitude.ofFloat x = .infinite false ∨ ∃ v, Magnitude.ofFloat x = .finite v ∧ 0 < v.value

theorem isPositive_of_lt (h : 0 < x) : IsPositive x := by
  have hzero : (0 : Float).toModel.unpack = .zero .positive := by rfl
  rw [lt_iff_compare, hzero] at h
  rw [IsPositive, ← Magnitude.ofUnpacked_unpack]
  cases hu : x.toModel.unpack with
  | notANumber =>
    rw [hu] at h
    cases h
  | infinity s =>
    rw [hu] at h
    cases s with
    | negative => cases h
    | positive => exact .inl rfl
  | zero s =>
    rw [hu] at h
    cases h
  | finite s m e hm =>
    rw [hu] at h
    cases s with
    | negative => cases h
    | positive =>
      refine .inr ⟨_, rfl, ?_⟩
      change 0 < BinaryFraction.value ⟨false, m, e⟩
      rw [value_positive]
      positivity

/-- A finite number from zero to one. -/
def IsRatio (x : Float) : Prop := ∃ v, Magnitude.ofFloat x = .finite v ∧ 0 ≤ v.value ∧ v.value ≤ 1

/-- With ranks, values do not go down: of two exponents the greater one belongs to a significand with a
leading one. -/
theorem value_le_of_rank_le {m₁ m₂ : ℕ} {e₁ e₂ : ℤ} {hm₁ : 0 < m₁} {hm₂ : 0 < m₂}
    (h₁ : Packed (.finite .positive m₁ e₁ hm₁)) (h₂ : Packed (.finite .positive m₂ e₂ hm₂))
    (h : rank (.finite .positive m₁ e₁ hm₁) ≤ rank (.finite .positive m₂ e₂ hm₂)) :
    (m₁ * 2 ^ e₁ : ℚ) ≤ m₂ * 2 ^ e₂ := by
  have hweight : exponentWeight = 4503599627370496 := rfl
  obtain ⟨hlt₁, hleast₁, -, hleading₁⟩ := h₁
  obtain ⟨hlt₂, hleast₂, -, hleading₂⟩ := h₂
  change (e₁ + 1074) * (exponentWeight : ℤ) + m₁ ≤ (e₂ + 1074) * (exponentWeight : ℤ) + m₂ at h
  rw [hweight] at hlt₁ hlt₂ hleading₁ hleading₂ h
  rcases lt_trichotomy e₁ e₂ with he | rfl | he
  · have hm : m₁ ≤ 2 * m₂ := by omega
    calc (m₁ * 2 ^ e₁ : ℚ) ≤ (2 * m₂ : ℕ) * 2 ^ e₁ := by gcongr
      _ = m₂ * 2 ^ (e₁ + 1) := by
        rw [zpow_add_one₀ two_ne_zero]
        push_cast
        ring
      _ ≤ m₂ * 2 ^ e₂ := by
        gcongr
        · norm_num
        · omega
  · have hm : m₁ ≤ m₂ := by omega
    gcongr
  · omega

theorem isRatio_of_le (hlow : 0 ≤ x) (hhigh : x ≤ 1) : IsRatio x := by
  have hnan := (isNaN_of_le hhigh).1
  have hpacked := packed_unpack x
  rw [le_iff_rank_le (isNaN_of_le hlow).1 hnan] at hlow
  rw [le_iff_rank_le hnan (isNaN_of_le hhigh).2] at hhigh
  have hzero : rank (0 : Float).toModel.unpack = 0 := by rfl
  have hone : (1 : Float).toModel.unpack = .finite .positive exponentWeight (-52) (by decide) := by rfl
  have hbits : Packed (.finite .positive exponentWeight (-52) (by decide)) := hone ▸ packed_unpack 1
  rw [hzero] at hlow
  rw [hone] at hhigh
  rw [IsRatio, ← Magnitude.ofUnpacked_unpack]
  cases hu : x.toModel.unpack with
  | notANumber => exact absurd hu (toModel_ne_notANumber hnan)
  | infinity s =>
    rw [hu] at hlow hhigh
    cases s with
    | negative => exact absurd hlow (by decide)
    | positive => exact absurd hhigh (by decide)
  | zero s => exact ⟨_, rfl, by simp [BinaryFraction.value], by simp [BinaryFraction.value]⟩
  | finite s m e hm =>
    rw [hu] at hlow hhigh hpacked
    cases s with
    | negative => exact absurd hlow (rank_negative hpacked).2.not_ge
    | positive =>
      have hle := value_le_of_rank_le hpacked hbits hhigh
      refine ⟨⟨false, m, e⟩, rfl, ?_, ?_⟩
      · rw [value_positive]
        positivity
      · rw [value_positive]
        exact hle.trans_eq (by norm_num [exponentWeight])

end PlantGrammar.Number
