import PlantGrammar.Proofs.Mesh.Frame
import PlantGrammar.Proofs.Number.Binary

/-! # Points that are apart

A number taken from itself leaves zero, or NaN when it is not finite, and nothing finite is left of a
difference with a number that is not. So two points that are apart are distinct, and all their
coordinates are finite.
-/
namespace PlantGrammar
open Float.Model

namespace Number
variable {x y : Float}

theorem isFinite_unpack (x : Float) : x.toModel.unpack.isFinite = x.isFinite := rfl

/-- What is neither finite nor infinite is NaN. -/
theorem isInf_or_isNaN (h : x.isFinite = false) : x.isInf = true ∨ x.isNaN = true := by
  have hinf : x.isInf = x.toModel.unpack.isInf := rfl
  have hnan : x.isNaN = x.toModel.unpack.isNaN := rfl
  rw [← isFinite_unpack] at h
  rw [hinf, hnan]
  cases hx : x.toModel.unpack with
  | notANumber => exact .inr rfl
  | infinity => exact .inl rfl
  | zero => rw [hx] at h; cases h
  | finite => rw [hx] at h; cases h

theorem isFinite_pack_of_not_isFinite {u : UnpackedFloat} (h : u.isFinite = false) :
    (Float.ofModel (.pack u)).isFinite = false := by
  cases u with
  | notANumber => rfl
  | infinity s => cases s <;> rfl
  | zero => cases h
  | finite => cases h

theorem sub_eq_pack (x y : Float) : x - y =
    .ofModel (.pack (UnpackedFloat.sub .binary64 x.toModel.unpack y.toModel.unpack)) := rfl

theorem sub_self_of_isFinite (h : x.isFinite = true) : x - x = 0 := by
  rw [← isFinite_unpack] at h
  rw [sub_eq_pack]
  cases hx : x.toModel.unpack with
  | notANumber => rw [hx] at h; cases h
  | infinity => rw [hx] at h; cases h
  | zero s => cases s <;> rfl
  | finite s m e =>
    unfold UnpackedFloat.sub
    dsimp only
    rw [Int.sub_self]
    rfl

theorem isFinite_sub_of_not_isFinite (h : x.isFinite = false ∨ y.isFinite = false) :
    (x - y).isFinite = false := by
  rw [sub_eq_pack]
  apply isFinite_pack_of_not_isFinite
  rw [← isFinite_unpack x, ← isFinite_unpack y] at h
  generalize x.toModel.unpack = u, y.toModel.unpack = v at h ⊢
  rcases h with h | h
  · cases u with
    | notANumber => rfl
    | infinity s =>
      cases v with
      | infinity t => cases s <;> cases t <;> rfl
      | _ => rfl
    | zero => cases h
    | finite => cases h
  · cases v with
    | notANumber => cases u <;> rfl
    | infinity t =>
      cases u with
      | infinity s => cases s <;> cases t <;> rfl
      | _ => rfl
    | zero => cases h
    | finite => cases h

theorem isFinite_hypotenuse_of_not_isFinite (h : x.isFinite = false ∨ y.isFinite = false) :
    (hypotenuse x y).isFinite = false := by
  unfold hypotenuse
  by_cases hinf : (x.isInf || y.isInf) = true
  · rw [if_pos hinf]
    rfl
  · have hnan : (x.isNaN || y.isNaN) = true := by
      simp only [Bool.or_eq_true, not_or] at hinf ⊢
      rcases h with h | h
      · exact .inl ((isInf_or_isNaN h).resolve_left hinf.1)
      · exact .inr ((isInf_or_isNaN h).resolve_left hinf.2)
    rw [if_neg hinf, if_pos hnan]
    rfl

end Number

namespace Vec
open Number
variable {p q : Vec}

/-- Both coordinates are finite. -/
def IsFinite (p : Vec) : Prop := p.x.isFinite = true ∧ p.y.isFinite = true

instance (p : Vec) : Decidable p.IsFinite := by unfold IsFinite; infer_instance

theorem Apart.isFinite (h : p.Apart q) : p.IsFinite ∧ q.IsFinite := by
  have hdistance := h.1
  have hcoordinates : ∀ x ∈ [p.x, p.y, q.x, q.y], x.isFinite = true := by
    intro x hx
    by_contra hfinite
    rw [Bool.not_eq_true] at hfinite
    rw [isFinite_hypotenuse_of_not_isFinite] at hdistance
    · cases hdistance
    · simp only [List.mem_cons, List.not_mem_nil, or_false] at hx
      obtain rfl | rfl | rfl | rfl := hx
      · exact .inl (isFinite_sub_of_not_isFinite (.inr hfinite))
      · exact .inr (isFinite_sub_of_not_isFinite (.inr hfinite))
      · exact .inl (isFinite_sub_of_not_isFinite (.inl hfinite))
      · exact .inr (isFinite_sub_of_not_isFinite (.inl hfinite))
  simp only [List.forall_mem_cons] at hcoordinates
  obtain ⟨hpx, hpy, hqx, hqy, -⟩ := hcoordinates
  exact ⟨⟨hpx, hpy⟩, hqx, hqy⟩

theorem Apart.ne (h : p.Apart q) : p ≠ q := by
  rintro rfl
  obtain ⟨hx, hy⟩ := h.isFinite.1
  have hdistance := h.2
  rw [sub_self_of_isFinite hx, sub_self_of_isFinite hy] at hdistance
  have hzero : (hypotenuse 0 0 == 0) = true := by decide
  rw [hzero] at hdistance
  cases hdistance

end Vec
end PlantGrammar
