import Mathlib.Data.Int.Notation
import Mathlib.Data.Nat.Notation
import PlantGrammar.Mesh

/-! # Meshes one after the other

Appending meshes is associative with the empty mesh as its unit, since the shift of the indices adds
up. Vertices and triangles are counted by addition.
-/
namespace PlantGrammar.Mesh
variable {l m n : Mesh} {v v' t t' : ℕ}

@[ext] theorem ext (hp : m.positions = n.positions) (hc : m.colors = n.colors)
    (hi : m.indices = n.indices) : m = n := by
  cases m
  cases n
  cases hp
  cases hc
  cases hi
  rfl

@[simp] theorem append_empty (m : Mesh) : m.append empty = m := by
  ext1 <;> simp [append, empty]

@[simp] theorem empty_append (m : Mesh) : empty.append m = m := by
  ext1 <;> simp [append, empty, vertexCount]

@[simp] theorem vertexCount_append (m n : Mesh) :
    (m.append n).vertexCount = m.vertexCount + n.vertexCount := by
  simp [append, vertexCount]

theorem append_assoc (l m n : Mesh) : (l.append m).append n = l.append (m.append n) := by
  ext1
  · simp [append]
  · simp [append]
  · have hshift : (fun i : ℤ => i + ((l.append m).vertexCount : ℤ)) =
        (· + (l.vertexCount : ℤ)) ∘ (· + (m.vertexCount : ℤ)) := by
      funext i
      simp only [vertexCount_append, Function.comp_apply]
      omega
    change l.indices ++ m.indices.map _ ++ n.indices.map _ = _
    rw [hshift]
    simp [append]

/-- Shapes in a row, the indices of each shifted past the vertices of all before it. -/
def concat (shapes : List Mesh) : Mesh := shapes.foldl append empty

@[simp] theorem concat_nil : concat [] = empty := rfl

@[simp] theorem concat_append_singleton (shapes : List Mesh) (m : Mesh) :
    concat (shapes ++ [m]) = (concat shapes).append m := by
  simp [concat]

theorem foldl_append (m : Mesh) (shapes : List Mesh) :
    shapes.foldl append m = m.append (concat shapes) := by
  induction shapes generalizing m with
  | nil => exact m.append_empty.symm
  | cons n rest ih =>
    have hcons : concat (n :: rest) = n.append (concat rest) := by
      rw [concat, List.foldl_cons, ih, empty_append]
    rw [List.foldl_cons, ih, append_assoc, hcons]

theorem concat_cons (m : Mesh) (shapes : List Mesh) :
    concat (m :: shapes) = m.append (concat shapes) := by
  rw [concat, List.foldl_cons, foldl_append, empty_append]

/-- As many colors as positions, and three indices for each triangle. -/
structure Counts (m : Mesh) (v t : ℕ) : Prop where
  positions : m.positions.size = v
  colors : m.colors.size = v
  indices : m.indices.size = 3 * t

theorem counts_empty : empty.Counts 0 0 := ⟨rfl, rfl, rfl⟩

theorem Counts.append (hm : m.Counts v t) (hn : n.Counts v' t') :
    (m.append n).Counts (v + v') (t + t') := by
  obtain ⟨hp, hc, hi⟩ := hm
  obtain ⟨hp', hc', hi'⟩ := hn
  refine ⟨?_, ?_, ?_⟩
  · simp [Mesh.append, hp, hp']
  · simp [Mesh.append, hc, hc']
  · simp [Mesh.append, hi, hi', Nat.mul_add]

theorem Counts.vertexCount_eq (h : m.Counts v t) : m.vertexCount = v := h.positions

theorem Counts.ne_empty (h : m.Counts (v + 1) t) : m ≠ empty := by
  rintro rfl
  cases h.vertexCount_eq

theorem Counts.triangleCount_eq (h : m.Counts v t) : m.triangleCount = t := by
  simp [triangleCount, h.indices]

end PlantGrammar.Mesh
