import PlantGrammar.Proofs.Mesh.Arrays
import PlantGrammar.Proofs.Number.Order

/-! # The order in which triangles are drawn

A collection holds every triangle of its mesh once, with its own points and the color of its own first
vertex. The deepest come first and those whose depth is no number last; triangles of one depth keep
their order.
-/
namespace PlantGrammar
open Number

namespace Mesh
variable {m : Mesh} {a : MeshArrays} {f : Facet} {fs drawn : List Facet} {t : ℕ}

/-- The triangle of a number, ready to draw: the points of its own three vertices, and the channels of
its own first vertex. -/
def FacetAt (m : Mesh) (t : ℕ) (f : Facet) : Prop :=
  ∃ (i j k : ℕ) (p q r : Position) (color : ℤ), m.indices[3 * t]? = some (i : ℤ) ∧
    m.indices[3 * t + 1]? = some (j : ℤ) ∧ m.indices[3 * t + 2]? = some (k : ℤ) ∧
    m.positions[i]? = some p ∧ m.positions[j]? = some q ∧ m.positions[k]? = some r ∧
    m.colors[i]? = some color ∧ f.corners = [p.toSingle, q.toSingle, r.toSingle] ∧
    Color.unpack color = .ok f.color

theorem getElem?_triples {α : Type} {n : ℕ} {xs : List α} (h : xs.length = 3 * n) {c : α × α × α}
    (hc : (triples xs.toArray)[t]? = some c) :
    xs[3 * t]? = some c.1 ∧ xs[3 * t + 1]? = some c.2.1 ∧ xs[3 * t + 2]? = some c.2.2 := by
  induction n generalizing xs t with
  | zero =>
    obtain rfl := List.length_eq_zero_iff.mp h
    simp [triples] at hc
  | succ n ih =>
    obtain ⟨x, y, z, rest, rfl, hrest⟩ := exists_triple h
    rw [triples_cons] at hc
    cases t with
    | zero =>
      cases hc
      exact ⟨rfl, rfl, rfl⟩
    | succ t =>
      have hlater := ih hrest hc
      exact hlater

theorem getElem?_toNat {xs : Array ℤ} (hxs : ∀ x ∈ xs, IsWord x) {n k : ℕ}
    (h : (xs.toList.map Int.toNat)[n]? = some k) : xs[n]? = some (k : ℤ) := by
  rw [List.getElem?_map, Option.map_eq_some_iff] at h
  obtain ⟨x, hx, rfl⟩ := h
  rw [Array.getElem?_toList] at hx
  rw [hx, Int.toNat_of_nonneg (hxs x (Array.mem_of_getElem? hx)).1]

theorem facetAt_of_facet (hc : m.WordColors) {i j k : ℕ} (hi : m.indices[3 * t]? = some (i : ℤ))
    (hj : m.indices[3 * t + 1]? = some (j : ℤ)) (hk : m.indices[3 * t + 2]? = some (k : ℤ))
    {triangles : List (ℕ × ℕ × ℕ)}
    (h : MeshArrays.facet ⟨m.positions.map Position.toSingle, (m.colors.toList.map Int.toNat).toArray,
      triangles⟩ (i, j, k) = .ok f) : m.FacetAt t f := by
  unfold MeshArrays.facet at h
  dsimp only at h
  split at h
  · rename_i p q r color hp hq hr hcolor
    cases h
    rw [Array.getElem?_map, Option.map_eq_some_iff] at hp hq hr
    obtain ⟨p, hp, rfl⟩ := hp
    obtain ⟨q, hq, rfl⟩ := hq
    obtain ⟨r, hr, rfl⟩ := hr
    rw [List.getElem?_toArray] at hcolor
    have hword := getElem?_toNat hc hcolor
    refine ⟨i, j, k, p, q, r, color, hi, hj, hk, hp, hq, hr, hword, rfl, ?_⟩
    exact unpack_of_isWord (hc _ (Array.mem_of_getElem? hword))
  · cases h

theorem drawnBefore_trans (r s t : Option ℤ) (hrs : drawnBefore r s = true)
    (hst : drawnBefore s t = true) : drawnBefore r t = true := by
  cases r with
  | none =>
    cases s with
    | none => exact hst
    | some b => cases hrs
  | some a =>
    cases t with
    | none => rfl
    | some c =>
      cases s with
      | none => cases hst
      | some b => exact decide_eq_true ((of_decide_eq_true hst).trans (of_decide_eq_true hrs))

theorem drawnBefore_total (r s : Option ℤ) : (drawnBefore r s || drawnBefore s r) = true := by
  cases r with
  | none => cases s <;> rfl
  | some a =>
    cases s with
    | none => rfl
    | some b =>
      rw [Bool.or_eq_true]
      rcases Int.le_total b a with h | h
      · exact .inl (decide_eq_true h)
      · exact .inr (decide_eq_true h)

/-- Triangles by rank, those of one rank by number: the order without ties that the sorting by rank
alone amounts to. -/
def sortedByRank (fs : List Facet) : List ((Option ℤ × Facet) × ℕ) :=
  ((fs.map fun f => (depthRank (meanDepth f.corners), f)).zipIdx).mergeSort
    (List.zipIdxLE fun s t => drawnBefore s.1 t.1)

theorem map_sortedByRank (fs : List Facet) : (sortedByRank fs).map (·.1.2) =
    ((fs.map fun f => (depthRank (meanDepth f.corners), f)).mergeSort fun s t =>
      drawnBefore s.1 t.1).map Prod.snd := by
  rw [← List.mergeSort_zipIdx, List.map_map]
  rfl

theorem mem_sortedByRank {fs : List Facet} {x : (Option ℤ × Facet) × ℕ} (h : x ∈ sortedByRank fs) :
    fs[x.2]? = some x.1.2 ∧ x.1.1 = depthRank (meanDepth x.1.2.corners) := by
  rw [sortedByRank, List.mem_mergeSort, List.mem_zipIdx_iff_getElem?, List.getElem?_map,
    Option.map_eq_some_iff] at h
  obtain ⟨f, hf, hx⟩ := h
  rw [← hx]
  exact ⟨hf, rfl⟩

theorem perm_sortedByRank (fs : List Facet) :
    ((sortedByRank fs).map Prod.snd).Perm (List.range fs.length) := by
  have hperm := (List.mergeSort_perm (fs.map fun f => (depthRank (meanDepth f.corners), f)).zipIdx
    (List.zipIdxLE fun s t => drawnBefore s.1 t.1)).map Prod.snd
  rwa [List.zipIdx_map_snd, List.length_map, ← List.range_eq_range'] at hperm

theorem pairwise_sortedByRank (fs : List Facet) :
    (sortedByRank fs).Pairwise fun x y =>
      List.zipIdxLE (fun s t : Option ℤ × Facet => drawnBefore s.1 t.1) x y = true :=
  List.pairwise_mergeSort (List.zipIdxLE_trans fun r s t => drawnBefore_trans r.1 s.1 t.1)
    (List.zipIdxLE_total fun r s => drawnBefore_total r.1 s.1) _

/-- A collection has every triangle of a mesh once, under its own number. None is deeper than one
before it, and a depth that is no number comes after all others. Where two depths are equal, or neither
is a number, the triangles keep their order. -/
structure DrawnInOrder (m : Mesh) (order : List ℕ) (drawn : List Facet) : Prop where
  perm : order.Perm (List.range m.triangleCount)
  own : List.Forall₂ m.FacetAt order drawn
  sorted : drawn.Pairwise fun f g =>
    (meanDepth g.corners).isNaN = true ∨ meanDepth g.corners ≤ meanDepth f.corners
  stable : (order.zip drawn).Pairwise fun x y =>
    ((meanDepth x.2.corners == meanDepth y.2.corners) = true ∨
      (meanDepth x.2.corners).isNaN = true ∧ (meanDepth y.2.corners).isNaN = true) → x.1 < y.1

theorem drawnInOrder_sortedByRank {fs : List Facet} (hlength : fs.length = m.triangleCount)
    (hown : ∀ t f, fs[t]? = some f → m.FacetAt t f) :
    m.DrawnInOrder ((sortedByRank fs).map Prod.snd) ((sortedByRank fs).map (·.1.2)) := by
  have hperm := perm_sortedByRank fs
  have hpairwise := pairwise_sortedByRank fs
  have hmem : ∀ x ∈ sortedByRank fs, fs[x.2]? = some x.1.2 ∧
    x.1.1 = depthRank (meanDepth x.1.2.corners) := fun x => mem_sortedByRank
  have hnodup : (sortedByRank fs).Pairwise fun x y => x.2 ≠ y.2 := by
    have hn : ((sortedByRank fs).map Prod.snd).Nodup := hperm.nodup_iff.mpr List.nodup_range
    exact List.pairwise_map.mp hn
  generalize sortedByRank fs = l at hperm hpairwise hmem hnodup ⊢
  refine ⟨hlength ▸ hperm, ?_, ?_, ?_⟩
  · rw [List.forall₂_map_left_iff, List.forall₂_map_right_iff, List.forall₂_same]
    intro x hx
    exact hown x.2 x.1.2 (hmem x hx).1
  · rw [List.pairwise_map]
    refine hpairwise.imp_of_mem ?_
    intro x y hx hy hxy
    rw [← drawnBefore_depthRank, ← (hmem x hx).2, ← (hmem y hy).2]
    unfold List.zipIdxLE at hxy
    split at hxy
    · assumption
    · cases hxy
  · rw [List.zip_map', List.pairwise_map]
    refine (hpairwise.and hnodup).imp_of_mem ?_
    rintro x y hx hy ⟨hxy, hne⟩ htie
    have hrank : x.1.1 = y.1.1 := by
      rw [(hmem x hx).2, (hmem y hy).2]
      exact depthRank_congr htie
    have hbefore : drawnBefore x.1.1 y.1.1 = true := by rw [hrank, drawnBefore_self]
    have hafter : drawnBefore y.1.1 x.1.1 = true := by rw [hrank, drawnBefore_self]
    unfold List.zipIdxLE at hxy
    rw [if_pos hbefore, if_pos hafter] at hxy
    exact Nat.lt_of_le_of_ne (of_decide_eq_true hxy) hne

/-- The facets of a mesh in mesh order, before they are sorted. -/
theorem exists_unsorted (h : m.WellFormed) (hc : m.WordColors) (hi : ∀ i ∈ m.indices, IsWord i) :
    ∃ fs, m.facets = .ok ((sortedByRank fs).map (·.1.2)) ∧ fs.length = m.triangleCount ∧
      ∀ t f, fs[t]? = some f → m.FacetAt t f := by
  obtain ⟨n, hn⟩ := h.triangles
  have hlen : (m.indices.toList.map Int.toNat).length = 3 * n := by
    rw [List.length_map, Array.length_toList, hn]
  have hcount := (flatMap_triples hlen).2
  obtain ⟨fs, hfs, hlength⟩ := exists_mapM_eq_ok fun x hx =>
    facet_eq_ok (a := ⟨m.positions.map Position.toSingle, (m.colors.toList.map Int.toNat).toArray,
      triples (m.indices.toList.map Int.toNat).toArray⟩) (by simp [h.colors]) (h.range_triples x hx)
  refine ⟨fs, ?_, ?_, ?_⟩
  · rw [map_sortedByRank]
    exact bind_eq_ok.mpr ⟨_, arrays_eq_ok h hc hi, bind_eq_ok.mpr ⟨fs, hfs, rfl⟩⟩
  · rw [hlength, hcount, triangleCount, hn]
    omega
  · intro t f hf
    obtain ⟨ht, rfl⟩ := List.getElem?_eq_some_iff.mp hf
    have hall := forall₂_of_mapM_eq_ok hfs
    have hfacet := hall.get (hall.length_eq ▸ ht) ht
    have hget := List.getElem?_eq_getElem (hall.length_eq ▸ ht)
    obtain ⟨hi', hj', hk'⟩ := getElem?_triples hlen hget
    exact facetAt_of_facet hc (getElem?_toNat hi hi') (getElem?_toNat hi hj') (getElem?_toNat hi hk')
      hfacet

theorem exists_drawnInOrder (h : m.WellFormed) (hc : m.WordColors) (hi : ∀ i ∈ m.indices, IsWord i) :
    ∃ order drawn, m.facets = .ok drawn ∧ m.DrawnInOrder order drawn := by
  obtain ⟨fs, hfs, hlength, hown⟩ := exists_unsorted h hc hi
  exact ⟨_, _, hfs, drawnInOrder_sortedByRank hlength hown⟩

theorem DrawnInOrder.length_eq {order : List ℕ} (h : m.DrawnInOrder order drawn) :
    drawn.length = m.triangleCount := by
  rw [← h.own.length_eq, h.perm.length_eq, List.length_range]

theorem collection?_of_facets (h : m.facets = .ok drawn) :
    m.collection? = .ok (if drawn.isEmpty then none else some drawn) := by
  rw [collection?, h]
  rfl

/-- A well-formed mesh of words without a triangle draws nothing, and one with triangles draws one
collection of them, in order. -/
theorem collection_drawn_in_order (h : m.WellFormed) (hc : m.WordColors)
    (hi : ∀ i ∈ m.indices, IsWord i) :
    (m.triangleCount = 0 → m.collection? = .ok none) ∧
    (m.triangleCount ≠ 0 → ∃ order drawn, m.collection? = .ok (some drawn) ∧
      m.DrawnInOrder order drawn) := by
  obtain ⟨order, drawn, hfacets, horder⟩ := exists_drawnInOrder h hc hi
  have hlength := horder.length_eq
  rw [collection?_of_facets hfacets]
  constructor
  · intro hnone
    rw [List.length_eq_zero_iff.mp (hlength.trans hnone)]
    rfl
  · intro hsome
    have hne : ¬ drawn.isEmpty = true := by
      intro hempty
      rw [List.isEmpty_iff.mp hempty] at hlength
      exact hsome hlength.symm
    rw [if_neg hne]
    exact ⟨order, drawn, rfl, horder⟩

/-- Both zeros, a depth that is no number, a deeper triangle behind them, and shared vertices. -/
theorem collection_drawn_in_order_zeros_and_nan : ∃ m : Mesh,
    m = ⟨#[⟨0, 0, 0⟩, ⟨1, 0, -0.0⟩, ⟨0, 1, 0 / 0⟩, ⟨1, 1, 1⟩], #[0x01020304, 255, 0, 0xffffffff],
      #[2, 0, 1, 1, 1, 1, 0, 1, 0, 3, 0, 1]⟩ ∧
    (m.WellFormed ∧ m.WordColors ∧ ∀ i ∈ m.indices, IsWord i) ∧
    ∃ order drawn, m.collection? = .ok (some drawn) ∧ m.DrawnInOrder order drawn := by
  refine ⟨_, rfl, ⟨⟨rfl, by decide, by decide⟩, ?_, ?_⟩, ?_⟩
  · unfold WordColors IsWord
    decide
  · unfold IsWord
    decide
  · refine (collection_drawn_in_order ⟨rfl, by decide, by decide⟩ ?_ ?_).2 (by decide)
    · unfold WordColors IsWord
      decide
    · unfold IsWord
      decide

end Mesh
end PlantGrammar
