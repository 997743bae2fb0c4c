import PlantGrammar.Proofs.Mesh.DrawOrder
import PlantGrammar.Proofs.Mesh.Strokes

/-! # Flat triangles

Every shape lies at one depth, so a mesh of shapes is known, for the order of drawing, by the depths of
its triangles: one after the other, those of the parts of a mesh are those of the mesh.
-/
namespace PlantGrammar
open Number

namespace Mesh
variable {m n : Mesh} {ds es : List Float} {points : List Vec} {cs : List ℕ} {color : ℤ} {t k : ℕ}

/-- The depth at each corner of the triangles in turn. -/
def cornerDepths (m : Mesh) : List (Option Float) :=
  m.indices.toList.map fun i => (m.positions[i.toNat]?).map Position.depth

/-- The corners of flat triangles at such depths. -/
def flat (ds : List Float) : List (Option Float) := ds.flatMap fun d => [some d, some d, some d]

/-- A mesh of words whose triangles lie flat, at the depths of a list. -/
structure LiesAt (m : Mesh) (ds : List Float) : Prop where
  wellFormed : m.WellFormed
  wordColors : m.WordColors
  depths : m.cornerDepths = flat ds

theorem liesAt_of_piece (h : Piece True m) (hd : m.cornerDepths = flat ds) : m.LiesAt ds :=
  ⟨h.wellFormed, h.wordColors trivial, hd⟩

theorem liesAt_empty : empty.LiesAt [] := liesAt_of_piece (piece_empty True) rfl

theorem cornerDepths_append (hm : m.WellFormed) (hn : n.WellFormed) :
    (m.append n).cornerDepths = m.cornerDepths ++ n.cornerDepths := by
  unfold cornerDepths append
  simp only [Array.toList_append, Array.toList_map, List.map_append, List.map_map]
  congr 1
  · refine List.map_congr_left ?_
    intro i hi
    have hrange := hm.range i (Array.mem_toList_iff.mp hi)
    rw [Array.getElem?_append_left ((Int.toNat_lt hrange.1).mpr hrange.2)]
  · refine List.map_congr_left ?_
    intro i hi
    have hrange := hn.range i (Array.mem_toList_iff.mp hi)
    have hshift : (i + (m.vertexCount : ℤ)).toNat = i.toNat + m.positions.size := by
      unfold vertexCount
      omega
    rw [Function.comp_apply, hshift, Array.getElem?_append_right (Nat.le_add_left _ _),
      Nat.add_sub_cancel]

theorem LiesAt.append (hm : m.LiesAt ds) (hn : n.LiesAt es) : (m.append n).LiesAt (ds ++ es) := by
  refine ⟨hm.wellFormed.append hn.wellFormed, hm.wordColors.append hn.wordColors, ?_⟩
  rw [cornerDepths_append hm.wellFormed hn.wellFormed, hm.depths, hn.depths]
  exact List.flatMap_append.symm

theorem flat_replicate (k : ℕ) (d : Float) :
    flat (List.replicate k d) = List.replicate (3 * k) (some d) := by
  induction k with
  | zero => rfl
  | succ k ih =>
    rw [List.replicate_succ, flat, List.flatMap_cons]
    change _ ++ flat (List.replicate k d) = _
    rw [ih]
    rfl

theorem depth_of_patch {d : Float} {j : ℕ} {p : Position}
    (h : (patch points d color cs).positions[j]? = some p) : p.depth = d := by
  change (points.map fun v => (⟨v.x, v.y, d⟩ : Position)).toArray[j]? = _ at h
  rw [List.getElem?_toArray, List.getElem?_map, Option.map_eq_some_iff] at h
  obtain ⟨v, -, rfl⟩ := h
  rfl

theorem liesAt_patch {d : Float} (h : Piece True (.patch points d color cs)) (hk : cs.length = 3 * k) :
    (patch points d color cs).LiesAt (List.replicate k d) := by
  refine liesAt_of_piece h ?_
  rw [flat_replicate, List.eq_replicate_iff]
  constructor
  · rw [cornerDepths, List.length_map]
    change ((cs.map Int.ofNat).toArray.toList).length = _
    rw [List.length_map, hk]
  · intro corner hcorner
    obtain ⟨i, hi, rfl⟩ := List.mem_map.mp hcorner
    have hrange := h.wellFormed.range i (Array.mem_toList_iff.mp hi)
    have hget := Array.getElem?_eq_getElem ((Int.toNat_lt hrange.1).mpr hrange.2)
    rw [hget, Option.map_some, depth_of_patch hget]

theorem liesAt_halves {d : Float} (h : points.length = 4) (hc : IsWord color) :
    (patch points d color halves).LiesAt (List.replicate 2 d) :=
  liesAt_patch (piece_halves h (fun _ => hc) d) rfl

theorem liesAt_star (center : Vec) (outer inner : Float) (points : ℕ) (d : Float) (hc : IsWord color) :
    (star center outer inner points d color).LiesAt (List.replicate (2 * points) d) := by
  refine liesAt_patch (piece_fan _ _ (fun _ => hc) d) ?_
  rw [length_spokes, Drawing.length_ring, Drawing.length_starRadii]

theorem liesAt_disc (center : Vec) (radius : Float) (segments : ℕ) (d : Float) (hc : IsWord color) :
    (disc center radius segments d color).LiesAt (List.replicate segments d) := by
  refine liesAt_patch (piece_fan _ _ (fun _ => hc) d) ?_
  rw [length_spokes, Drawing.length_ring, List.length_replicate]

/-- The mean depth of three corners at one depth. -/
def flatDepth (d : Float) : Float := meanDepth (List.replicate 3 ⟨0, 0, toSingle d⟩)

theorem length_flat (ds : List Float) : (flat ds).length = 3 * ds.length := by
  simp [flat, Nat.mul_comm]

theorem LiesAt.triangleCount_eq (h : m.LiesAt ds) : m.triangleCount = ds.length := by
  have hlength : m.cornerDepths.length = m.indices.size := by
    rw [cornerDepths, List.length_map, Array.length_toList]
  rw [triangleCount, ← hlength, h.depths, length_flat]
  omega

theorem getElem?_flat {d : Float} (h : ds[t]? = some d) : (flat ds)[3 * t]? = some (some d) ∧
    (flat ds)[3 * t + 1]? = some (some d) ∧ (flat ds)[3 * t + 2]? = some (some d) := by
  induction ds generalizing t with
  | nil => cases h
  | cons e ds ih =>
    cases t with
    | zero =>
      cases h
      exact ⟨rfl, rfl, rfl⟩
    | succ t =>
      have hrest := ih h
      exact hrest

theorem getElem?_cornerDepths {c i : ℕ} {p : Position} (hi : m.indices[c]? = some (i : ℤ))
    (hp : m.positions[i]? = some p) : m.cornerDepths[c]? = some (some p.depth) := by
  rw [cornerDepths, List.getElem?_map, Array.getElem?_toList, hi]
  change some ((m.positions[i]?).map Position.depth) = _
  rw [hp]
  rfl

/-- A flat triangle has the mean depth of its depth. -/
theorem LiesAt.meanDepth_eq (h : m.LiesAt ds) {f : Facet} {d : Float} (hf : m.FacetAt t f)
    (hd : ds[t]? = some d) : meanDepth f.corners = flatDepth d := by
  obtain ⟨i, j, k, p, q, r, color, hi, hj, hk, hp, hq, hr, -, hcorners, -⟩ := hf
  obtain ⟨h₀, h₁, h₂⟩ := getElem?_flat hd
  rw [← h.depths] at h₀ h₁ h₂
  have hp' : p.depth = d := by
    rw [getElem?_cornerDepths hi hp] at h₀
    exact Option.some.inj (Option.some.inj h₀)
  have hq' : q.depth = d := by
    rw [getElem?_cornerDepths hj hq] at h₁
    exact Option.some.inj (Option.some.inj h₁)
  have hr' : r.depth = d := by
    rw [getElem?_cornerDepths hk hr] at h₂
    exact Option.some.inj (Option.some.inj h₂)
  have hdepths : f.corners.map Position.depth = [toSingle d, toSingle d, toSingle d] := by
    rw [hcorners, ← hp']
    change [toSingle p.depth, toSingle q.depth, toSingle r.depth] = _
    rw [hq', hr', hp']
  unfold flatDepth meanDepth
  rw [hdepths]
  rfl

end Mesh
end PlantGrammar
