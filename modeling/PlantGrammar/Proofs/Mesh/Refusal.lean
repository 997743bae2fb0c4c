import PlantGrammar.Proofs.Mesh.Translation

/-! # A shape is drawn whole or not at all

All checks of a flat shape come before its first vertex. One that is refused is refused on every
mesh, for the same cause, and leaves it as it was; so refused shapes can be struck from any history.
-/
namespace PlantGrammar
open Drawing

namespace Stroke
variable {s : Stroke} {strokes : List Stroke} {m m' : Mesh} {fault : Fault}

/-- A flat shape with its color in channels. -/
def IsShape : Stroke → Prop
  | line .. | kite .. | box .. | disc .. | star .. => True
  | clear | vertex .. | fan .. => False

theorem drawing_eq_emit (hs : s.IsShape) : s.drawing = emit s.shape := by
  cases s with
  | clear | vertex | fan => exact hs.elim
  | line => exact line_eq_emit ..
  | kite => exact kite_eq_emit ..
  | box => exact box_eq_emit ..
  | disc => exact disc_eq_emit ..
  | star => exact star_eq_emit ..

/-- A shape is refused by its arguments alone, and nothing of it is drawn. -/
theorem drawing_eq_error_iff (hs : s.IsShape) :
    s.drawing m = .error fault m' ↔ s.shape = .error fault ∧ m' = m := by
  rw [drawing_eq_emit hs]
  cases s.shape with
  | ok n => simp [emit]
  | error cause =>
    simp only [emit, EStateM.Result.error.injEq, Except.error.injEq]
    exact and_congr_right fun _ => eq_comm

/-- What shapes leave behind: those that are not refused, one after the other. -/
theorem ofStrokes_eq_concat (hs : ∀ s ∈ strokes, s.IsShape) : Mesh.ofStrokes strokes =
    Mesh.concat (strokes.filterMap fun s => s.shape.toOption) := by
  induction strokes using List.reverseRecOn with
  | nil => rfl
  | append_singleton strokes s ih =>
    have hlast := drawing_eq_emit (hs s (by simp))
    rw [Mesh.ofStrokes_append_singleton, ih fun r hr => hs r (List.mem_append_left _ hr), hlast,
      List.filterMap_append]
    cases hshape : s.shape with
    | ok n => simp [leaves, emit, hshape, Except.toOption]
    | error cause => simp [leaves, emit, hshape, Except.toOption]

theorem leaves_of_refused (hs : s.IsShape) (h : s.shape = .error fault) (m : Mesh) :
    s.drawing.leaves m = m :=
  leaves_of_error ((drawing_eq_error_iff hs).mpr ⟨h, rfl⟩)

/-- A shape that is refused leaves positions, colors and indices as they were. It would be refused on
any other mesh for the same cause, and a history of strokes is the same without it. -/
theorem refused_leaves_mesh (hs : s.IsShape) (h : s.drawing m = .error fault m') :
    m' = m ∧ (∀ k, s.drawing k = .error fault k) ∧ ∀ before after,
      Mesh.ofStrokes (before ++ s :: after) = Mesh.ofStrokes (before ++ after) := by
  obtain ⟨hshape, hm⟩ := (drawing_eq_error_iff hs).mp h
  refine ⟨hm, fun k => (drawing_eq_error_iff hs).mpr ⟨hshape, rfl⟩, fun before after => ?_⟩
  unfold Mesh.ofStrokes
  rw [List.foldl_append, List.foldl_append, List.foldl_cons, leaves_of_refused hs hshape]

/-- A center of one coordinate carries the ring of a disc, but not its hub. -/
theorem refused_leaves_mesh_hub_of_one_coordinate : ∃ m : Mesh,
    m = ⟨#[⟨0, 1, 0.5⟩], #[7], #[0, 0, 0]⟩ ∧
    Coordinates.spread (.items [3]) = .ok ⟨3, 3⟩ ∧
    (Stroke.disc (.items [3]) 1 6 0 [.integer 1, .integer 2, .integer 3, .integer 4]).drawing m =
      .error .pointShape m ∧
    ∀ before after, Mesh.ofStrokes (before ++
      .disc (.items [3]) 1 6 0 [.integer 1, .integer 2, .integer 3, .integer 4] :: after) =
        Mesh.ofStrokes (before ++ after) := by
  have hrefused : (Stroke.disc (.items [3]) 1 6 0
      [.integer 1, .integer 2, .integer 3, .integer 4]).drawing ⟨#[⟨0, 1, 0.5⟩], #[7], #[0, 0, 0]⟩ =
      .error .pointShape ⟨#[⟨0, 1, 0.5⟩], #[7], #[0, 0, 0]⟩ := rfl
  obtain ⟨-, hrefused, hwithout⟩ := refused_leaves_mesh (by trivial) hrefused
  exact ⟨_, rfl, rfl, hrefused _, hwithout⟩

end Stroke
end PlantGrammar
