import Mathlib.Data.Int.Notation
import PlantGrammar.Settings

/-! # Settings that pass their checks

Every check is on one field. What comes out of a validation lies within the bounds of the fields, be it
given, read from the environment or a default. No check compares two fields.
-/
namespace PlantGrammar

namespace Validated
variable {α β : Type} {f : Validated (α → β)} {x : Validated α} {b : β}

theorem map_eq_valid {g : α → β} (h : g <$> x = .valid b) : ∃ a, x = .valid a ∧ g a = b := by
  cases x with
  | valid a => exact ⟨a, rfl, valid.inj h⟩
  | invalid issues => cases h

theorem seq_eq_valid (h : f <*> x = .valid b) : ∃ g a, f = .valid g ∧ x = .valid a ∧ g a = b := by
  cases f with
  | valid g =>
    cases x with
    | valid a => exact ⟨g, a, rfl, rfl, valid.inj h⟩
    | invalid issues => cases h
  | invalid issues => cases x <;> cases h

theorem ensure_eq_valid (holds : α → Bool) {a : α} {kind : IssueKind}
    (h : x.ensure holds kind = .valid a) : holds a := by
  cases x with
  | valid a' =>
    unfold ensure at h
    dsimp only at h
    split at h
    · cases h
      assumption
    · cases h
  | invalid issues => cases h

theorem under_eq_valid {a : α} {place : String} (h : x.under place = .valid a) : x = .valid a := by
  cases x with
  | valid a' => exact h
  | invalid issues => cases h

end Validated

/-- An optional field keeps what its default and everything that is read have in common. -/
theorem Fields.of_optional_eq_valid {α : Type} {fields : Fields} {name : String}
    {read : Raw → Validated α} {default a : α} {P : α → Prop}
    (h : fields.optional name read default = .valid a) (hdefault : P default)
    (hread : ∀ raw a, read raw = .valid a → P a) : P a := by
  unfold optional at h
  split at h
  · exact hread _ a (Validated.under_eq_valid h)
  · cases h
    exact hdefault

namespace Settings
variable {settings : Settings} {arguments : Fields} {environment : List (String × String)}

theorem nonneg_of_natural (raw : Raw) (n : ℤ) (h : Preset.natural raw = .valid n) : 0 ≤ n :=
  of_decide_eq_true (Validated.ensure_eq_valid (fun n => decide (0 ≤ n)) h)

theorem pos_of_positive (raw : Raw) (x : Float) (h : Preset.positive raw = .valid x) : 0 < x :=
  of_decide_eq_true (Validated.ensure_eq_valid (fun x => decide (0 < x)) h)

theorem lt_of_above {bound : ℤ} (raw : Raw) (n : ℤ) (h : above bound raw = .valid n) : bound < n :=
  of_decide_eq_true (Validated.ensure_eq_valid (fun n => decide (bound < n)) h)

/-- The bounds of the fields with whole numbers. The seed has none. -/
structure Bounded (settings : Settings) : Prop where
  dpi : 0 < settings.dpi
  minIterations : 0 ≤ settings.minIterations
  maxIterations : 0 ≤ settings.maxIterations
  defaultPreset : 0 ≤ settings.defaultPreset
  starPoints : 2 < settings.starPoints
  circleSegments : 2 < settings.circleSegments

theorem bounds_of_validate (h : validate arguments environment = .valid settings) :
    settings.Bounded ∧ 0 < settings.starInnerRatio := by
  obtain ⟨_, _, hnamed, -, rfl⟩ := Validated.seq_eq_valid h
  obtain ⟨_, h₁, rfl⟩ := Validated.map_eq_valid hnamed
  obtain ⟨_, _, h₂, hsegments, rfl⟩ := Validated.seq_eq_valid h₁
  obtain ⟨_, _, h₃, hratio, rfl⟩ := Validated.seq_eq_valid h₂
  obtain ⟨_, _, h₄, hpoints, rfl⟩ := Validated.seq_eq_valid h₃
  obtain ⟨_, _, h₅, -, rfl⟩ := Validated.seq_eq_valid h₄
  obtain ⟨_, _, h₆, -, rfl⟩ := Validated.seq_eq_valid h₅
  obtain ⟨_, _, h₇, -, rfl⟩ := Validated.seq_eq_valid h₆
  obtain ⟨_, _, h₈, -, rfl⟩ := Validated.seq_eq_valid h₇
  obtain ⟨_, _, h₉, -, rfl⟩ := Validated.seq_eq_valid h₈
  obtain ⟨_, _, h₁₀, hdefault, rfl⟩ := Validated.seq_eq_valid h₉
  obtain ⟨_, _, h₁₁, hmax, rfl⟩ := Validated.seq_eq_valid h₁₀
  obtain ⟨_, _, h₁₂, hmin, rfl⟩ := Validated.seq_eq_valid h₁₁
  obtain ⟨_, _, h₁₃, hdpi, rfl⟩ := Validated.seq_eq_valid h₁₂
  obtain ⟨_, -, rfl⟩ := Validated.map_eq_valid h₁₃
  refine ⟨?_, Fields.of_optional_eq_valid hratio (by decide +kernel) pos_of_positive⟩
  exact
    { dpi := Fields.of_optional_eq_valid hdpi (by decide) lt_of_above
      minIterations := Fields.of_optional_eq_valid hmin (by decide) nonneg_of_natural
      maxIterations := Fields.of_optional_eq_valid hmax (by decide) nonneg_of_natural
      defaultPreset := Fields.of_optional_eq_valid hdefault (by decide) nonneg_of_natural
      starPoints := Fields.of_optional_eq_valid hpoints (by decide) lt_of_above
      circleSegments := Fields.of_optional_eq_valid hsegments (by decide) lt_of_above }

theorem bounded_of_validate (h : validate arguments environment = .valid settings) :
    settings.Bounded :=
  (bounds_of_validate h).1

end Settings
end PlantGrammar
