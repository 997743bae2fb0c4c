import PlantGrammar.Mesh.DrawOrder
import PlantGrammar.Proofs.Number.Binary

/-! # The order of doubles by their bits

Leaving NaN aside, the bits of a double without its sign, counted down from zero for a negative one,
order the doubles as numbers. Both zeros get the same count.
-/
namespace PlantGrammar
open Number Float.Model

namespace Number

/-- The place of a number among all numbers. -/
def rank : UnpackedFloat → ℤ
  | .infinity s => s.apply (2047 * exponentWeight)
  | .notANumber => 0
  | .zero _ => 0
  | .finite s m e _ => s.apply ((e + 1074) * exponentWeight + m)

namespace Magnitude
variable {bits : UInt64} {negative : Bool}

theorem bits_of_infinite (h : ofBits bits = .infinite negative) :
    negative = decide (signWeight ≤ bits.toNat) ∧ bits.toNat % signWeight = 2047 * exponentWeight := by
  have hbits := mod_signWeight bits.toNat
  unfold ofBits at h
  dsimp only at h
  split at h
  · rename_i hexponent
    split at h
    · rename_i hfraction
      cases h
      rw [hexponent, hfraction] at hbits
      exact ⟨rfl, hbits⟩
    · cases h
  · split at h <;> cases h

end Magnitude

section
variable {x y : Float} {bits : UInt64} {u v : UnpackedFloat}

theorem signed_bits (s : UnpackedFloat.Sign) {n : ℤ}
    (hs : isNegative s = decide (signWeight ≤ bits.toNat))
    (hn : (bits.toNat % signWeight : ℕ) = n) :
    (if signWeight ≤ bits.toNat then some (-((bits.toNat - signWeight : ℕ) : ℤ))
      else some (bits.toNat : ℤ)) =
      some (s.apply n) := by
  have hlt : bits.toNat < 2 * signWeight := bits.toNat_lt
  cases s with
  | negative =>
    have hle : signWeight ≤ bits.toNat := of_decide_eq_true hs.symm
    rw [if_pos hle, ← hn, Nat.mod_eq_sub_mod hle, Nat.mod_eq_of_lt (by omega)]
    rfl
  | positive =>
    have hle : ¬ signWeight ≤ bits.toNat := of_decide_eq_false hs.symm
    rw [if_neg hle, ← hn, Nat.mod_eq_of_lt (by omega)]
    rfl

theorem depthRank_eq (h : x.isNaN = false) : depthRank x = some (rank x.toModel.unpack) := by
  have hmagnitude : Magnitude.ofUnpacked x.toModel.unpack = .ofBits x.toBits :=
    Magnitude.ofUnpacked_unpack x
  unfold depthRank
  rw [if_neg (by rw [h]; decide)]
  cases hu : x.toModel.unpack with
  | infinity s =>
    rw [hu] at hmagnitude
    obtain ⟨hs, hn⟩ := Magnitude.bits_of_infinite hmagnitude.symm
    exact signed_bits s hs (by rw [hn]; rfl)
  | notANumber =>
    have hnan : x.isNaN = x.toModel.unpack.isNaN := rfl
    rw [hu, h] at hnan
    cases hnan
  | zero s =>
    rw [hu] at hmagnitude
    have hcanonical := Magnitude.canonical_of_ofBits hmagnitude.symm
    rw [signed_bits s hcanonical.negative_eq hcanonical.bits_eq]
    cases s <;> rfl
  | finite s m e =>
    rw [hu] at hmagnitude
    have hcanonical := Magnitude.canonical_of_ofBits hmagnitude.symm
    exact signed_bits s hcanonical.negative_eq hcanonical.bits_eq

/-- The parts of a finite number as bits hold them. -/
def Packed : UnpackedFloat → Prop
  | .finite _ m e _ => m < 2 * exponentWeight ∧ -1074 ≤ e ∧ e ≤ 971 ∧ (e = -1074 ∨ exponentWeight ≤ m)
  | _ => True

theorem packed_unpack (x : Float) : Packed x.toModel.unpack := by
  have hmagnitude : Magnitude.ofUnpacked x.toModel.unpack = .ofBits x.toBits :=
    Magnitude.ofUnpacked_unpack x
  cases hu : x.toModel.unpack with
  | infinity => trivial
  | notANumber => trivial
  | zero => trivial
  | finite s m e =>
    rw [hu] at hmagnitude
    obtain ⟨-, -, hlt, hleast, hgreatest, hleading⟩ := Magnitude.canonical_of_ofBits hmagnitude.symm
    exact ⟨hlt, hleast, hgreatest, hleading⟩

theorem some_lt {a b : ℤ} (h : a < b) : some .lt = some (compare a b) := by
  rw [compare_lt_iff_lt.mpr h]

theorem some_gt {a b : ℤ} (h : b < a) : some .gt = some (compare a b) := by
  rw [compare_gt_iff_gt.mpr h]

section
variable {m m₁ m₂ : ℕ} {e e₁ e₂ : ℤ} {hm : 0 < m} {hm₁ : 0 < m₁} {hm₂ : 0 < m₂}

theorem rank_positive (h : Packed (.finite .positive m e hm)) :
    0 < rank (.finite .positive m e hm) ∧ rank (.finite .positive m e hm) < 2047 * exponentWeight := by
  have hweight : exponentWeight = 4503599627370496 := rfl
  obtain ⟨hlt, hleast, hgreatest, hleading⟩ := h
  change 0 < (e + 1074) * (exponentWeight : ℤ) + m ∧ (e + 1074) * (exponentWeight : ℤ) + m < _
  rw [hweight] at hlt hleading ⊢
  omega

theorem rank_negative (h : Packed (.finite .negative m e hm)) :
    -(2047 * exponentWeight) < rank (.finite .negative m e hm) ∧
      rank (.finite .negative m e hm) < 0 := by
  have hpositive : Packed (.finite .positive m e hm) := h
  obtain ⟨hpos, hlt⟩ := rank_positive hpositive
  have hneg : rank (.finite .negative m e hm) = -rank (.finite .positive m e hm) := rfl
  omega

/-- Exponents decide before significands. -/
theorem compare_weights (h₁ : Packed (.finite .positive m₁ e₁ hm₁))
    (h₂ : Packed (.finite .positive m₂ e₂ hm₂)) :
    (compare e₁ e₂).then (compare m₁ m₂) =
      compare (rank (.finite .positive m₁ e₁ hm₁)) (rank (.finite .positive m₂ e₂ hm₂)) := by
  have hweight : exponentWeight = 4503599627370496 := rfl
  obtain ⟨hlt₁, hleast₁, -, hleading₁⟩ := h₁
  obtain ⟨hlt₂, hleast₂, -, hleading₂⟩ := h₂
  change _ = compare ((e₁ + 1074) * (exponentWeight : ℤ) + m₁) ((e₂ + 1074) * (exponentWeight : ℤ) + m₂)
  rw [hweight] at hlt₁ hlt₂ hleading₁ hleading₂ ⊢
  generalize hw₁ : (e₁ + 1074) * ((4503599627370496 : ℕ) : ℤ) + m₁ = w₁
  generalize hw₂ : (e₂ + 1074) * ((4503599627370496 : ℕ) : ℤ) + m₂ = w₂
  rcases lt_trichotomy e₁ e₂ with he | he | he
  · have hw : w₁ < w₂ := by omega
    rw [compare_lt_iff_lt.mpr he, compare_lt_iff_lt.mpr hw]
    rfl
  · rcases lt_trichotomy m₁ m₂ with hm | hm | hm
    · have hw : w₁ < w₂ := by omega
      rw [compare_eq_iff_eq.mpr he, compare_lt_iff_lt.mpr hm, compare_lt_iff_lt.mpr hw]
      rfl
    · have hw : w₁ = w₂ := by omega
      rw [compare_eq_iff_eq.mpr he, compare_eq_iff_eq.mpr hm, compare_eq_iff_eq.mpr hw]
      rfl
    · have hw : w₁ > w₂ := by omega
      rw [compare_eq_iff_eq.mpr he, compare_gt_iff_gt.mpr hm, compare_gt_iff_gt.mpr hw]
      rfl
  · have hw : w₁ > w₂ := by omega
    rw [compare_gt_iff_gt.mpr he, compare_gt_iff_gt.mpr hw]
    rfl

theorem swap_compare (a b : ℤ) : (compare a b).swap = compare (-a) (-b) := by
  rcases lt_trichotomy a b with h | h | h
  · rw [compare_lt_iff_lt.mpr h, compare_gt_iff_gt.mpr (neg_lt_neg h)]
    rfl
  · rw [compare_eq_iff_eq.mpr h, compare_eq_iff_eq.mpr (congrArg Neg.neg h)]
    rfl
  · rw [compare_gt_iff_gt.mpr h, compare_lt_iff_lt.mpr (neg_lt_neg h)]
    rfl

theorem compare_finite {s t : UnpackedFloat.Sign} (hu : Packed (.finite s m₁ e₁ hm₁))
    (hv : Packed (.finite t m₂ e₂ hm₂)) :
    UnpackedFloat.compare (.finite s m₁ e₁ hm₁) (.finite t m₂ e₂ hm₂) =
      some (compare (rank (.finite s m₁ e₁ hm₁)) (rank (.finite t m₂ e₂ hm₂))) := by
  cases s with
  | negative =>
    cases t with
    | negative =>
      change some ((compare e₁ e₂).then (compare m₁ m₂)).swap = _
      rw [compare_weights (show Packed (.finite .positive m₁ e₁ hm₁) from hu)
        (show Packed (.finite .positive m₂ e₂ hm₂) from hv), swap_compare]
      rfl
    | positive => exact some_lt ((rank_negative hu).2.trans (rank_positive hv).1)
  | positive =>
    cases t with
    | negative => exact some_gt ((rank_negative hv).2.trans (rank_positive hu).1)
    | positive => exact congrArg some (compare_weights hu hv)

end

/-- Numbers compare as their ranks do. -/
theorem compare_eq_some (hu : u ≠ .notANumber) (hv : v ≠ .notANumber) (hpu : Packed u) (hpv : Packed v) :
    u.compare v = some (compare (rank u) (rank v)) := by
  have htop : (0 : ℤ) < 2047 * exponentWeight := by decide
  have hbottom : -(2047 * exponentWeight : ℤ) < 0 := by decide
  cases u with
  | notANumber => exact absurd rfl hu
  | infinity s =>
    cases v with
    | notANumber => exact absurd rfl hv
    | infinity t => cases s <;> cases t <;> decide
    | zero t =>
      cases s with
      | negative => exact some_lt hbottom
      | positive => exact some_gt htop
    | finite t m e =>
      cases s with
      | negative =>
        cases t with
        | negative => exact some_lt (rank_negative hpv).1
        | positive => exact some_lt (hbottom.trans (rank_positive hpv).1)
      | positive =>
        cases t with
        | negative => exact some_gt ((rank_negative hpv).2.trans htop)
        | positive => exact some_gt (rank_positive hpv).2
  | zero s =>
    cases v with
    | notANumber => exact absurd rfl hv
    | infinity t =>
      cases t with
      | negative => exact some_gt hbottom
      | positive => exact some_lt htop
    | zero t => rfl
    | finite t m e =>
      cases t with
      | negative => exact some_gt (rank_negative hpv).2
      | positive => exact some_lt (rank_positive hpv).1
  | finite s m e =>
    cases v with
    | notANumber => exact absurd rfl hv
    | infinity t =>
      cases t with
      | negative =>
        cases s with
        | negative => exact some_gt (rank_negative hpu).1
        | positive => exact some_gt (hbottom.trans (rank_positive hpu).1)
      | positive =>
        cases s with
        | negative => exact some_lt ((rank_negative hpu).2.trans htop)
        | positive => exact some_lt (rank_positive hpu).2
    | zero t =>
      cases s with
      | negative => exact some_lt (rank_negative hpu).2
      | positive => exact some_gt (rank_positive hpu).1
    | finite t m' e' => exact compare_finite hpu hpv

theorem toModel_ne_notANumber (h : x.isNaN = false) : x.toModel.unpack ≠ .notANumber := by
  intro hu
  have hnan : x.isNaN = x.toModel.unpack.isNaN := rfl
  rw [hu, h] at hnan
  cases hnan

theorem compare_unpack (hx : x.isNaN = false) (hy : y.isNaN = false) :
    x.toModel.unpack.compare y.toModel.unpack =
      some (compare (rank x.toModel.unpack) (rank y.toModel.unpack)) :=
  compare_eq_some (toModel_ne_notANumber hx) (toModel_ne_notANumber hy) (packed_unpack x)
    (packed_unpack y)

theorem le_iff_rank_le (hx : x.isNaN = false) (hy : y.isNaN = false) :
    x ≤ y ↔ rank x.toModel.unpack ≤ rank y.toModel.unpack := by
  have hle : x ≤ y ↔ x.toModel ≤ y.toModel := decide_eq_true_iff
  rw [hle]
  change (x.toModel.unpack.compare y.toModel.unpack).any (·.isLE) = true ↔ _
  rw [compare_unpack hx hy]
  exact Std.isLE_compare

theorem beq_iff_rank_eq (hx : x.isNaN = false) (hy : y.isNaN = false) :
    (x == y) = true ↔ rank x.toModel.unpack = rank y.toModel.unpack := by
  change (x.toModel.unpack.compare y.toModel.unpack == some .eq) = true ↔ _
  rw [compare_unpack hx hy]
  simp

end
end Number

section
variable {x y : Float}

theorem depthRank_of_isNaN (h : x.isNaN = true) : depthRank x = none := if_pos h

theorem not_le_nan (y : Float) : ¬ y ≤ .nan := by
  intro h
  have hle : (y.toModel.unpack.compare Float.nan.toModel.unpack).any (·.isLE) = true :=
    decide_eq_true_iff.mp h
  have hnan : Float.nan.toModel.unpack = .notANumber := by rfl
  have hnone (u : UnpackedFloat) : u.compare .notANumber = none := by cases u <;> rfl
  rw [hnan, hnone] at hle
  cases hle

/-- A triangle may come before another if the other has no depth or is no deeper. -/
theorem drawnBefore_depthRank :
    drawnBefore (depthRank x) (depthRank y) = true ↔ y.isNaN = true ∨ y ≤ x := by
  cases hy : y.isNaN with
  | true =>
    rw [depthRank_of_isNaN hy]
    cases depthRank x <;> simp [drawnBefore]
  | false =>
    cases hx : x.isNaN with
    | true =>
      rw [depthRank_of_isNaN hx, depthRank_eq hy, eq_nan_of_isNaN hx]
      simp [drawnBefore, not_le_nan]
    | false =>
      rw [depthRank_eq hx, depthRank_eq hy, le_iff_rank_le hy hx]
      simp [drawnBefore]

theorem drawnBefore_self (r : Option ℤ) : drawnBefore r r = true := by
  cases r with
  | none => rfl
  | some n => exact decide_eq_true le_rfl

/-- Equal depths have one rank, and so have those that are no numbers. -/
theorem depthRank_congr (h : (x == y) = true ∨ x.isNaN = true ∧ y.isNaN = true) :
    depthRank x = depthRank y := by
  rcases h with h | ⟨hx, hy⟩
  · have hx : x.isNaN = false := by
      cases hx : x.isNaN with
      | true =>
        rw [eq_nan_of_isNaN hx, Float.nan_beq_eq_false] at h
        cases h
      | false => rfl
    have hy : y.isNaN = false := by
      cases hy : y.isNaN with
      | true =>
        rw [eq_nan_of_isNaN hy, Float.beq_nan_eq_false] at h
        cases h
      | false => rfl
    rw [depthRank_eq hx, depthRank_eq hy, (beq_iff_rank_eq hx hy).mp h]
  · rw [depthRank_of_isNaN hx, depthRank_of_isNaN hy]

end
end PlantGrammar
