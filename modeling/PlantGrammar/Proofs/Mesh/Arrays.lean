import Mathlib.Data.List.Forall2
import PlantGrammar.Mesh.DrawOrder
import PlantGrammar.Proofs.Mesh.Append

/-! # Meshes that can be drawn

A well-formed mesh has a color for each position and whole triangles, and each of its indices names a
vertex. When its colors and indices are words, its arrays lose nothing, and gathering its triangles
never fails.
-/
namespace PlantGrammar

/-- Fits an unsigned word of 32 bits. -/
def IsWord (n : ℤ) : Prop := 0 ≤ n ∧ n < 0x100000000

theorem mapM_word32 {ns : List ℤ} (h : ∀ n ∈ ns, IsWord n) :
    ns.mapM word32 = .ok (ns.map Int.toNat) := by
  induction ns with
  | nil => rfl
  | cons n ns ih =>
    have hn : word32 n = .ok n.toNat := if_pos (h n (by simp))
    have hns := ih fun k hk => h k (by simp [hk])
    rw [List.mapM_cons, hn, hns]
    rfl

theorem map_ofNat_toNat {ns : List ℤ} (h : ∀ n ∈ ns, IsWord n) :
    (ns.map Int.toNat).map Int.ofNat = ns := by
  rw [List.map_map]
  refine (List.map_congr_left fun n hn => ?_).trans ns.map_id
  exact Int.toNat_of_nonneg (h n hn).1

theorem unpack_of_isWord {color : ℤ} (h : IsWord color) :
    Color.unpack color = .ok (Color.levels color.toNat) := by
  have hword : word32 color = .ok color.toNat := if_pos h
  rw [Color.unpack, hword]
  rfl

/-- A computation that succeeds on each element succeeds on the list. -/
theorem exists_mapM_eq_ok {α β : Type} {f : α → Except Fault β} {xs : List α}
    (h : ∀ x ∈ xs, ∃ y, f x = .ok y) : ∃ ys, xs.mapM f = .ok ys ∧ ys.length = xs.length := by
  induction xs with
  | nil => exact ⟨[], rfl, rfl⟩
  | cons x xs ih =>
    obtain ⟨y, hy⟩ := h x (by simp)
    obtain ⟨ys, hys, hlen⟩ := ih fun z hz => h z (by simp [hz])
    refine ⟨y :: ys, ?_, by simp [hlen]⟩
    rw [List.mapM_cons, hy, hys]
    rfl

theorem forall₂_of_mapM_eq_ok {α β : Type} {f : α → Except Fault β} {xs : List α} {ys : List β}
    (h : xs.mapM f = .ok ys) : List.Forall₂ (fun x y => f x = .ok y) xs ys := by
  induction xs generalizing ys with
  | nil =>
    cases h
    exact .nil
  | cons x xs ih =>
    rw [List.mapM_cons] at h
    obtain ⟨y, hy, h⟩ := bind_eq_ok.mp h
    obtain ⟨rest, hrest, h⟩ := bind_eq_ok.mp h
    cases h
    exact .cons hy (ih hrest)

/-- A computation that fails on the first element of some kind, and on none before, fails on the list. -/
theorem mapM_eq_error_of_find? {α β : Type} {f : α → Except Fault β} {p : α → Bool}
    (hp : ∀ x, p x = false → ∃ y, f x = .ok y) {xs : List α} {x : α} (h : xs.find? p = some x)
    {fault : Fault} (hx : f x = .error fault) : xs.mapM f = .error fault := by
  induction xs with
  | nil => cases h
  | cons y ys ih =>
    rw [List.mapM_cons]
    rw [List.find?_cons] at h
    cases hy : p y with
    | true =>
      rw [hy] at h
      cases h
      rw [hx]
      rfl
    | false =>
      rw [hy] at h
      obtain ⟨z, hz⟩ := hp y hy
      rw [hz, ih h]
      rfl

namespace Mesh
variable {m n : Mesh} {a : MeshArrays}

def corners {α : Type} (t : α × α × α) : List α := [t.1, t.2.1, t.2.2]

theorem triples_cons {α : Type} (a b c : α) (xs : List α) :
    triples (a :: b :: c :: xs).toArray = (a, b, c) :: triples xs.toArray := by
  have hsize : (a :: b :: c :: xs).toArray.size / 3 = xs.toArray.size / 3 + 1 := by
    simp only [List.size_toArray, List.length_cons]
    omega
  unfold triples
  rw [hsize, List.range_succ_eq_map, List.filterMap_cons, List.filterMap_map]
  simp only [List.getElem?_toArray, Function.comp_def, Nat.succ_eq_add_one, Nat.mul_add_one]
  rfl

theorem exists_triple {α : Type} {t : ℕ} {xs : List α} (h : xs.length = 3 * (t + 1)) :
    ∃ a b c rest, xs = a :: b :: c :: rest ∧ rest.length = 3 * t := by
  match xs, h with
  | a :: b :: c :: rest, h =>
    simp only [List.length_cons] at h
    exact ⟨a, b, c, rest, rfl, by omega⟩

/-- Nothing is left over of a list of whole triangles. -/
theorem flatMap_triples {α : Type} {t : ℕ} {xs : List α} (h : xs.length = 3 * t) :
    (triples xs.toArray).flatMap corners = xs ∧ (triples xs.toArray).length = t := by
  induction t generalizing xs with
  | zero =>
    obtain rfl := List.length_eq_zero_iff.mp h
    simp [triples]
  | succ t ih =>
    obtain ⟨a, b, c, rest, rfl, hrest⟩ := exists_triple h
    obtain ⟨hflat, hlen⟩ := ih hrest
    rw [triples_cons, List.flatMap_cons, hflat, List.length_cons, hlen]
    exact ⟨rfl, rfl⟩

/-- After whole triangles the next one begins. -/
theorem triples_append {α : Type} {t : ℕ} {xs : List α} (h : xs.length = 3 * t) (ys : List α) :
    triples (xs ++ ys).toArray = triples xs.toArray ++ triples ys.toArray := by
  induction t generalizing xs with
  | zero =>
    obtain rfl := List.length_eq_zero_iff.mp h
    simp [triples]
  | succ t ih =>
    obtain ⟨a, b, c, rest, rfl, hrest⟩ := exists_triple h
    have hnext := ih hrest
    simp only [List.cons_append, triples_cons, hnext]

structure WellFormed (m : Mesh) : Prop where
  colors : m.colors.size = m.positions.size
  triangles : 3 ∣ m.indices.size
  range : ∀ i ∈ m.indices, 0 ≤ i ∧ i < m.vertexCount

/-- All colors are words. -/
def WordColors (m : Mesh) : Prop := ∀ c ∈ m.colors, IsWord c

theorem wellFormed_empty : empty.WellFormed := by
  refine ⟨rfl, ⟨0, rfl⟩, ?_⟩
  intro i hi
  exact absurd hi (Array.not_mem_empty i)

theorem wordColors_empty : empty.WordColors := by
  intro c hc
  exact absurd hc (Array.not_mem_empty c)

theorem WellFormed.append (hm : m.WellFormed) (hn : n.WellFormed) : (m.append n).WellFormed := by
  refine ⟨?_, ?_, ?_⟩
  · simp only [Mesh.append, Array.size_append, hm.colors, hn.colors]
  · simp only [Mesh.append, Array.size_append, Array.size_map]
    exact Nat.dvd_add hm.triangles hn.triangles
  · intro i hi
    rw [vertexCount_append]
    rcases Array.mem_append.mp hi with hi | hi
    · have := hm.range i hi
      omega
    · obtain ⟨j, hj, rfl⟩ := Array.mem_map.mp hi
      have := hn.range j hj
      omega

theorem WordColors.append (hm : m.WordColors) (hn : n.WordColors) : (m.append n).WordColors := by
  intro c hc
  rcases Array.mem_append.mp hc with hc | hc
  · exact hm c hc
  · exact hn c hc

/-- The arrays hold all of a mesh, and its triangles can be gathered from them. -/
structure Gathered (m : Mesh) (a : MeshArrays) : Prop where
  arrays_eq : m.arrays = .ok a
  positions_eq : a.positions = m.positions.map Position.toSingle
  colors_eq : a.colors.toList.map Int.ofNat = m.colors.toList
  indices_eq : (a.triangles.flatMap corners).map Int.ofNat = m.indices.toList
  range : ∀ t ∈ a.triangles, ∀ i ∈ corners t, i < a.positions.size
  facets : ∃ fs, m.facets = .ok fs ∧ fs.length = m.triangleCount

theorem arrays_eq_ok (h : m.WellFormed) (hc : m.WordColors) (hi : ∀ i ∈ m.indices, IsWord i) :
    m.arrays = .ok ⟨m.positions.map Position.toSingle, (m.colors.toList.map Int.toNat).toArray,
      triples (m.indices.toList.map Int.toNat).toArray⟩ := by
  have hcolors : m.colors.toList.mapM word32 = _ :=
    mapM_word32 fun c hm => hc c (Array.mem_toList_iff.mp hm)
  have hindices : m.indices.toList.mapM word32 = _ :=
    mapM_word32 fun i hm => hi i (Array.mem_toList_iff.mp hm)
  have hwhole : ¬ m.indices.size % 3 ≠ 0 := by
    obtain ⟨t, ht⟩ := h.triangles
    omega
  rw [arrays, Array.mapM_eq_mapM_toList, Array.mapM_eq_mapM_toList, hcolors, hindices]
  simp only [if_neg hwhole]
  rfl

theorem facet_eq_ok (hc : a.colors.size = a.positions.size) {t : ℕ × ℕ × ℕ}
    (h : ∀ i ∈ corners t, i < a.positions.size) : ∃ f, a.facet t = .ok f := by
  obtain ⟨i, j, k⟩ := t
  have hi : i < a.positions.size := h i (by simp [corners])
  have hj : j < a.positions.size := h j (by simp [corners])
  have hk : k < a.positions.size := h k (by simp [corners])
  have hcolor : i < a.colors.size := hc ▸ hi
  simp [MeshArrays.facet, hi, hj, hk, hcolor]

theorem facets_eq_ok (ha : m.arrays = .ok a) (hc : a.colors.size = a.positions.size)
    (h : ∀ t ∈ a.triangles, ∀ i ∈ corners t, i < a.positions.size) :
    ∃ fs, m.facets = .ok fs ∧ fs.length = a.triangles.length := by
  obtain ⟨fs, hfs, hlen⟩ := exists_mapM_eq_ok (f := a.facet) fun t ht => facet_eq_ok hc (h t ht)
  refine ⟨_, bind_eq_ok.mpr ⟨a, ha, bind_eq_ok.mpr ⟨fs, hfs, rfl⟩⟩, ?_⟩
  simp [hlen]

/-- The triangles of a well-formed mesh name its vertices. -/
theorem WellFormed.range_triples (h : m.WellFormed) :
    ∀ x ∈ triples (m.indices.toList.map Int.toNat).toArray, ∀ i ∈ corners x,
      i < (m.positions.map Position.toSingle).size := by
  obtain ⟨t, ht⟩ := h.triangles
  have hlen : (m.indices.toList.map Int.toNat).length = 3 * t := by
    rw [List.length_map, Array.length_toList, ht]
  intro x hx i hi
  have hmem := List.mem_flatMap_of_mem hx hi
  rw [(flatMap_triples hlen).1] at hmem
  obtain ⟨j, hj, rfl⟩ := List.mem_map.mp hmem
  obtain ⟨hpos, hlt⟩ := h.range j (Array.mem_toList_iff.mp hj)
  rw [Array.size_map]
  exact (Int.toNat_lt hpos).mpr hlt

/-- The indices of a mesh with fewer vertices than there are words. -/
theorem WellFormed.isWord (h : m.WellFormed) (hv : m.vertexCount < 0x100000000) :
    ∀ i ∈ m.indices, IsWord i := by
  intro i hi
  have hrange := h.range i hi
  exact ⟨hrange.1, by omega⟩

/-- A well-formed mesh of words can be drawn. -/
theorem WellFormed.gathered (h : m.WellFormed) (hc : m.WordColors)
    (hv : m.vertexCount < 0x100000000) : ∃ a, m.Gathered a := by
  have hwords := h.isWord hv
  obtain ⟨t, ht⟩ := h.triangles
  have hlen : (m.indices.toList.map Int.toNat).length = 3 * t := by
    rw [List.length_map, Array.length_toList, ht]
  obtain ⟨hflat, hcount⟩ := flatMap_triples hlen
  have harrays := arrays_eq_ok h hc hwords
  have hrange := h.range_triples
  obtain ⟨fs, hfs, hfacets⟩ := facets_eq_ok harrays (by simp [h.colors]) hrange
  refine ⟨_, harrays, rfl, ?_, ?_, hrange, fs, hfs, ?_⟩
  · exact map_ofNat_toNat fun c hm => hc c (Array.mem_toList_iff.mp hm)
  · rw [hflat]
    exact map_ofNat_toNat fun i hm => hwords i (Array.mem_toList_iff.mp hm)
  · rw [hfacets, hcount, triangleCount, ht]
    omega

end Mesh
end PlantGrammar
