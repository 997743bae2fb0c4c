import PlantGrammar.Proofs.Number.Bounds
import PlantGrammar.Proofs.Settings

/-! # Accepted presets

Whatever raw value a field is read from, its bounds are checked on the number that is kept. So an
accepted preset is within all its bounds, and none of the numbers that have one is a NaN.
-/
namespace PlantGrammar
open Number

theorem Validated.of_ensure_eq_valid {α : Type} {x : Validated α} {holds : α → Bool}
    {kind : IssueKind} {a : α} (h : x.ensure holds kind = .valid a) : x = .valid a := by
  cases x with
  | valid b =>
    unfold ensure at h
    dsimp only at h
    split at h
    · exact h
    · cases h
  | invalid issues => cases h

/-- A required field has what everything that is read has in common. -/
theorem Fields.of_required_eq_valid {α : Type} {fields : Fields} {name : String}
    {read : Raw → Validated α} {a : α} {P : α → Prop} (h : fields.required name read = .valid a)
    (hread : ∀ raw a, read raw = .valid a → P a) : P a := by
  unfold required at h
  split at h
  · exact hread _ a (Validated.under_eq_valid h)
  · cases h

namespace Preset
variable {fields : Fields} {p : Preset}

theorem bounds_of_ratio (raw : Raw) (x : Float) (h : ratio raw = .valid x) : 0 ≤ x ∧ x ≤ 1 :=
  ⟨of_decide_eq_true (Validated.ensure_eq_valid (fun x => decide (0 ≤ x)) h),
    of_decide_eq_true (Validated.ensure_eq_valid (fun x => decide (x ≤ 1))
      (Validated.of_ensure_eq_valid h))⟩

/-- The bounds of the fields of a preset. -/
structure Bounded (p : Preset) : Prop where
  width : 0 < p.width
  length : 0 < p.length
  iterations : 0 ≤ p.iterations
  leafRatio : 0 ≤ p.leafRatio ∧ p.leafRatio ≤ 1

theorem bounded_of_validate (h : validate fields = .valid p) : p.Bounded := by
  obtain ⟨_, _, h₁, -, rfl⟩ := Validated.seq_eq_valid h
  obtain ⟨_, _, h₂, -, rfl⟩ := Validated.seq_eq_valid h₁
  obtain ⟨_, _, h₃, -, rfl⟩ := Validated.seq_eq_valid h₂
  obtain ⟨_, _, h₄, -, rfl⟩ := Validated.seq_eq_valid h₃
  obtain ⟨_, _, h₅, hratio, rfl⟩ := Validated.seq_eq_valid h₄
  obtain ⟨_, _, h₆, -, rfl⟩ := Validated.seq_eq_valid h₅
  obtain ⟨_, _, h₇, -, rfl⟩ := Validated.seq_eq_valid h₆
  obtain ⟨_, _, h₈, -, rfl⟩ := Validated.seq_eq_valid h₇
  obtain ⟨_, _, h₉, -, rfl⟩ := Validated.seq_eq_valid h₈
  obtain ⟨_, _, h₁₀, -, rfl⟩ := Validated.seq_eq_valid h₉
  obtain ⟨_, _, h₁₁, -, rfl⟩ := Validated.seq_eq_valid h₁₀
  obtain ⟨_, _, h₁₂, hiterations, rfl⟩ := Validated.seq_eq_valid h₁₁
  obtain ⟨_, _, h₁₃, -, rfl⟩ := Validated.seq_eq_valid h₁₂
  obtain ⟨_, _, h₁₄, -, rfl⟩ := Validated.seq_eq_valid h₁₃
  obtain ⟨_, _, h₁₅, -, rfl⟩ := Validated.seq_eq_valid h₁₄
  obtain ⟨_, _, h₁₆, -, rfl⟩ := Validated.seq_eq_valid h₁₅
  obtain ⟨_, _, h₁₇, hlength, rfl⟩ := Validated.seq_eq_valid h₁₆
  obtain ⟨_, _, h₁₈, hwidth, rfl⟩ := Validated.seq_eq_valid h₁₇
  obtain ⟨_, _, h₁₉, -, rfl⟩ := Validated.seq_eq_valid h₁₈
  obtain ⟨_, -, rfl⟩ := Validated.map_eq_valid h₁₉
  exact
    { width := Fields.of_required_eq_valid hwidth Settings.pos_of_positive
      length := Fields.of_required_eq_valid hlength Settings.pos_of_positive
      iterations := Fields.of_required_eq_valid hiterations Settings.nonneg_of_natural
      leafRatio := Fields.of_optional_eq_valid (P := fun x => 0 ≤ x ∧ x ≤ 1) hratio
        (by decide +kernel) bounds_of_ratio }

end Preset

/-- Presets and settings that are accepted are within bounds, whatever raw values they are read from,
and neither a NaN nor an infinity below passes for a number within them. -/
theorem accepted_within_bounds (fields arguments : Fields) (environment : List (String × String)) :
    (∀ p, Preset.validate fields = .valid p →
      p.Bounded ∧ IsPositive p.width ∧ IsPositive p.length ∧ IsRatio p.leafRatio) ∧
    ∀ settings, Settings.validate arguments environment = .valid settings →
      settings.Bounded ∧ 0 < settings.starInnerRatio ∧ IsPositive settings.starInnerRatio := by
  constructor
  · intro p h
    have hbounded := Preset.bounded_of_validate h
    exact ⟨hbounded, isPositive_of_lt hbounded.width, isPositive_of_lt hbounded.length,
      isRatio_of_le hbounded.leafRatio.1 hbounded.leafRatio.2⟩
  · intro settings h
    obtain ⟨hbounded, hratio⟩ := Settings.bounds_of_validate h
    exact ⟨hbounded, hratio, isPositive_of_lt hratio⟩

/-- Numbers as text, flags and integral floats are accepted, and so is an infinite length. -/
theorem accepted_within_bounds_lenient :
    (∃ p, Preset.validate
        [("name", .text ""), ("width", .text " 1e2 "), ("length", .text "inf"),
          ("delta_angle", .text "nan"), ("input", .text "F"), ("iter", .flag true),
          ("branch_color", .list (List.replicate 4 (.real 3))),
          ("leaf_color", .list (List.replicate 4 (.text "3"))),
          ("leaf_size", .list [.integer 1, .flag false]), ("leaf_ratio", .text "-0")] = .valid p ∧
      p.iterations = 1 ∧ p.Bounded ∧ IsPositive p.width ∧ IsPositive p.length ∧
      IsRatio p.leafRatio) ∧
    ∃ settings, Settings.validate [("Star_Points", .real 3), ("dpi", .flag true)]
        [("PLANTGEN_STAR_INNER_RATIO", "5e-324"), ("plantgen_circle_segments", "3.0")] =
        .valid settings ∧
      settings.starPoints = 3 ∧ settings.circleSegments = 3 ∧ settings.dpi = 1 ∧
      IsPositive settings.starInnerRatio := by
  constructor
  · refine (Validated.map_eq_valid (g := fun p : Preset => p.iterations) (b := 1) ?_).imp
      fun p h => ⟨h.1, h.2, (accepted_within_bounds _ [] []).1 p h.1⟩
    decide +kernel
  · refine (Validated.map_eq_valid (g := fun s : Settings => (s.starPoints, s.circleSegments, s.dpi))
      (b := (3, 3, 1)) ?_).imp fun settings h => ⟨h.1, ?_⟩
    · decide +kernel
    · simp only [Prod.mk.injEq] at h
      obtain ⟨hvalid, hpoints, hsegments, hdpi⟩ := h
      obtain ⟨-, -, hratio⟩ := (accepted_within_bounds [] _ _).2 settings hvalid
      exact ⟨hpoints, hsegments, hdpi, hratio⟩

end PlantGrammar
