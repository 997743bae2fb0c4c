import Mathlib
import PlantGrammar.Proofs.Mesh.Translation

/-! # Fans close around their hub

The sides of a fan join each rim point to the next, and the last to the first: second corners are the
rim, third corners the rim rotated by one. Discs and stars are fans around a ring of points at equal
angles.
-/
namespace PlantGrammar
namespace Mesh
variable {hub : ℕ} {rim : List ℕ}

/-- Triangles from a hub whose sides lead around a rim, once and back to its first point. -/
structure ClosedFan (hub : ℕ) (rim : List ℕ) (ts : List (ℕ × ℕ × ℕ)) : Prop where
  length_eq : ts.length = rim.length
  first_eq : ∀ t ∈ ts, t.1 = hub
  second_once : ∀ v ∈ rim, (ts.map fun t => t.2.1).count v = 1
  third_once : ∀ v ∈ rim, (ts.map fun t => t.2.2).count v = 1
  /-- A side ends where the next one begins. -/
  next_eq : ∀ i < ts.length,
    ts[i]?.map (fun t => t.2.2) = ts[(i + 1) % ts.length]?.map fun t => t.2.1
  /-- All sides together are one cycle through the rim. -/
  cycle : ∃ turn : Equiv.Perm ℕ, turn.IsCycleOn {v | v ∈ rim} ∧ ∀ t ∈ ts, turn t.2.1 = t.2.2
  sides_nodup : 3 ≤ rim.length → (ts.map fun t => s(t.2.1, t.2.2)).Nodup
  corners_nodup : rim.length ≠ 1 → ∀ t ∈ ts, (corners t).Nodup

def spokesAround (hub : ℕ) (rim : List ℕ) : List (ℕ × ℕ × ℕ) :=
  (rim.zip (rim.rotate 1)).map fun side => (hub, side)

theorem length_spokesAround (hub : ℕ) (rim : List ℕ) :
    (spokesAround hub rim).length = rim.length := by
  simp [spokesAround]

theorem map_second_spokesAround (hub : ℕ) (rim : List ℕ) :
    (spokesAround hub rim).map (fun t => t.2.1) = rim := by
  rw [spokesAround, List.map_map]
  exact List.map_fst_zip (by simp)

theorem map_third_spokesAround (hub : ℕ) (rim : List ℕ) :
    (spokesAround hub rim).map (fun t => t.2.2) = rim.rotate 1 := by
  rw [spokesAround, List.map_map]
  exact List.map_snd_zip (by simp)

/-- A triangle of the fan by the places of its side in the rim. -/
theorem exists_places_of_mem_spokesAround {t : ℕ × ℕ × ℕ} (h : t ∈ spokesAround hub rim) :
    ∃ i j, ∃ (hi : i < rim.length) (hj : j < rim.length),
      (i + 1) % rim.length = j ∧ t = (hub, rim[i], rim[j]) := by
  obtain ⟨i, hi, rfl⟩ := List.getElem_of_mem h
  rw [length_spokesAround] at hi
  exact ⟨i, _, hi, Nat.mod_lt _ (by omega), rfl, by simp [spokesAround, List.getElem_rotate]⟩

theorem succ_mod_ne {i n : ℕ} (hi : i < n) (hn : n ≠ 1) : (i + 1) % n ≠ i := by
  intro h
  rcases Nat.lt_or_ge (i + 1) n with hlt | hge
  · rw [Nat.mod_eq_of_lt hlt] at h
    omega
  · obtain rfl : n = i + 1 := by omega
    rw [Nat.mod_self] at h
    omega

/-- Around a rim of three points or more, a side is not the next one backwards. -/
theorem eq_of_succ_mod_swap {i j n : ℕ} (hi : i < n) (hj : j < n) (hn : 3 ≤ n)
    (hij : i = (j + 1) % n) (hji : (i + 1) % n = j) : i = j := by
  rcases Nat.lt_or_ge (i + 1) n with hlt | hge
  · rw [Nat.mod_eq_of_lt hlt] at hji
    rcases Nat.lt_or_ge (j + 1) n with hlt' | hge'
    · rw [Nat.mod_eq_of_lt hlt'] at hij
      omega
    · obtain rfl : n = j + 1 := by omega
      rw [Nat.mod_self] at hij
      omega
  · obtain rfl : n = i + 1 := by omega
    rw [Nat.mod_self] at hji
    subst hji
    rw [Nat.mod_eq_of_lt (by omega)] at hij
    omega

theorem sides_nodup_spokesAround (hnd : rim.Nodup) (hthree : 3 ≤ rim.length) :
    ((spokesAround hub rim).map fun t => s(t.2.1, t.2.2)).Nodup := by
  have hspokes : (spokesAround hub rim).Nodup := by
    refine List.Nodup.of_map (fun t => t.2.1) ?_
    rwa [map_second_spokesAround]
  refine hspokes.map_on fun t ht u hu htu => ?_
  obtain ⟨i, j, hi, hj, hij, rfl⟩ := exists_places_of_mem_spokesAround ht
  obtain ⟨k, l, hk, hl, hkl, rfl⟩ := exists_places_of_mem_spokesAround hu
  have hik : i = k := by
    rcases Sym2.eq_iff.mp htu with ⟨h, -⟩ | ⟨h, h'⟩
    · exact hnd.getElem_inj_iff.mp h
    -- The same side backwards would lead around a rim of two points.
    · have hil : i = l := hnd.getElem_inj_iff.mp h
      have hjk : j = k := hnd.getElem_inj_iff.mp h'
      exact eq_of_succ_mod_swap hi hk hthree (hil.trans hkl.symm) (hij.trans hjk)
  subst hik
  obtain rfl := hij.symm.trans hkl
  rfl

theorem corners_nodup_of_mem_spokesAround (hnd : rim.Nodup) (hhub : hub ∉ rim)
    (hone : rim.length ≠ 1) {t : ℕ × ℕ × ℕ} (ht : t ∈ spokesAround hub rim) :
    (corners t).Nodup := by
  obtain ⟨i, j, hi, hj, hij, rfl⟩ := exists_places_of_mem_spokesAround ht
  have hside : rim[i] ≠ rim[j] := by
    rw [Ne, hnd.getElem_inj_iff, ← hij]
    exact (succ_mod_ne hi hone).symm
  have hsecond : hub ≠ rim[i] := fun h => hhub (h ▸ List.getElem_mem hi)
  have hthird : hub ≠ rim[j] := fun h => hhub (h ▸ List.getElem_mem hj)
  simp [corners, hsecond, hthird, hside]

theorem isCycleOn_spokesAround (hnd : rim.Nodup) : ∃ turn : Equiv.Perm ℕ,
    turn.IsCycleOn {v | v ∈ rim} ∧ ∀ t ∈ spokesAround hub rim, turn t.2.1 = t.2.2 := by
  refine ⟨rim.formPerm, hnd.isCycleOn_formPerm, fun t ht => ?_⟩
  obtain ⟨i, j, hi, hj, rfl, rfl⟩ := exists_places_of_mem_spokesAround ht
  exact List.formPerm_apply_getElem rim hnd i hi

theorem closedFan_spokesAround (hnd : rim.Nodup) (hhub : hub ∉ rim) :
    ClosedFan hub rim (spokesAround hub rim) where
  length_eq := length_spokesAround hub rim
  first_eq t ht := by
    obtain ⟨side, -, rfl⟩ := List.mem_map.mp ht
    rfl
  second_once v hv := by
    rw [map_second_spokesAround]
    exact List.count_eq_one_of_mem hnd hv
  third_once v hv := by
    rw [map_third_spokesAround]
    exact List.count_eq_one_of_mem (List.nodup_rotate.mpr hnd) (List.mem_rotate.mpr hv)
  next_eq i hi := by
    rw [← List.getElem?_map, ← List.getElem?_map, map_third_spokesAround, map_second_spokesAround,
      length_spokesAround]
    exact List.getElem?_rotate (by rwa [length_spokesAround] at hi)
  cycle := isCycleOn_spokesAround hnd
  sides_nodup := sides_nodup_spokesAround hnd
  corners_nodup hone _ := corners_nodup_of_mem_spokesAround hnd hhub hone

/-- A fan behind the vertices of a mesh: its hub, its rim in order, and a closed fan of triangles. -/
structure FanAdded (m m' : Mesh) (hub : Vec) (rim : List Vec) (depth : Float) (color : ℤ) : Prop where
  positions_eq : m'.positions.toList = m.positions.toList ++ (hub :: rim).map fun p => ⟨p.x, p.y, depth⟩
  colors_eq : m'.colors.toList = m.colors.toList ++ List.replicate (rim.length + 1) color
  exists_triangles : ∃ ts,
    m'.indices.toList = m.indices.toList ++ (ts.flatMap corners).map Int.ofNat ∧
    ClosedFan m.vertexCount (List.range' (m.vertexCount + 1) rim.length) ts

theorem rotate_range' (start n : ℕ) : (List.range' start n).rotate 1 =
    (List.range n).map fun i => start + (i + 1) % n := by
  apply List.ext_getElem
  · simp
  · intro i hi hi'
    simp [List.getElem_rotate]

theorem spokes_shifted (v n : ℕ) : (spokes n).map (· + v) =
    (spokesAround v (List.range' (v + 1) n)).flatMap corners := by
  have hrim : List.range' (v + 1) n = (List.range n).map fun i => v + 1 + i := by
    rw [List.range'_eq_map_range]
  have hsides : spokesAround v (List.range' (v + 1) n) =
      (List.range n).map fun i => (v, v + 1 + i, v + 1 + (i + 1) % n) := by
    rw [spokesAround, rotate_range', hrim, List.zip_map', List.map_map]
    rfl
  rw [hsides, spokes, List.map_flatMap, List.flatMap_map]
  refine List.flatMap_congr fun i _ => ?_
  simp [corners]
  omega

theorem fanAdded_append (m : Mesh) (hub : Vec) (rim : List Vec) (depth : Float) (color : ℤ) :
    m.FanAdded (m.append (.fan hub rim depth color)) hub rim depth color := by
  refine ⟨?_, ?_, spokesAround m.vertexCount (List.range' (m.vertexCount + 1) rim.length), ?_, ?_⟩
  · simp [append, fan, patch]
  · simp [append, fan, patch]
  · rw [toList_indices_append, ← spokes_shifted]
    simp [fan, patch]
  · exact closedFan_spokesAround List.nodup_range' (by simp)

end Mesh

namespace Drawing

/-- The point at the `k`-th of `count` equal angles around a center. -/
def ringPoint (center : Vec) (radius : Float) (count k : ℕ) : Vec :=
  let theta := k.toFloat * (2 * Number.pi / count.toFloat)
  Vec.add ⟨theta.cos * radius, theta.sin * radius⟩ center

theorem ring_eq_map {radii : List Float} {count : ℕ} (hcount : radii.length = count)
    {radius : ℕ → Float} (hradii : ∀ k < count, radii[k]? = some (radius k)) (center : Vec) :
    ring center radii = (List.range count).map fun k => ringPoint center (radius k) count k := by
  apply List.ext_getElem?
  intro k
  rw [ring, List.getElem?_mapIdx, List.getElem?_map, hcount]
  by_cases hk : k < count
  · rw [hradii k hk, List.getElem?_range hk]
    rfl
  · rw [List.getElem?_eq_none (by omega), List.getElem?_eq_none (by simpa using hk)]
    rfl

/-- Outer and inner radii in turn. -/
theorem getElem?_starRadii (outer inner : Float) {points k : ℕ} (hk : k < 2 * points) :
    (starRadii outer inner points)[k]? = some (if k % 2 = 0 then outer else inner) := by
  induction points generalizing k with
  | zero => omega
  | succ points ih =>
    have hradii : starRadii outer inner (points + 1) =
        outer :: inner :: starRadii outer inner points := rfl
    rw [hradii]
    match k with
    | 0 => rfl
    | 1 => rfl
    | k + 2 =>
      rw [List.getElem?_cons_succ, List.getElem?_cons_succ, ih (by omega), Nat.add_mod_right]

theorem ring_replicate (center : Vec) (radius : Float) (count : ℕ) :
    ring center (List.replicate count radius) =
      (List.range count).map (ringPoint center radius count) :=
  ring_eq_map (List.length_replicate ..) (fun k hk => by simp [hk]) center

theorem ring_starRadii (center : Vec) (outer inner : Float) (points : ℕ) :
    ring center (starRadii outer inner points) = (List.range (2 * points)).map fun k =>
      ringPoint center (if k % 2 = 0 then outer else inner) (2 * points) k :=
  ring_eq_map (length_starRadii ..) (fun _ hk => getElem?_starRadii outer inner hk) center

theorem naturalCount_natCast (n : ℕ) : naturalCount n = .ok n := by
  simp [naturalCount]

variable {center : Coordinates} {hub : Vec} {channels : List Channel} {color : ℤ}

theorem ringFan_eq_ok (hc : Vec.ofPoint center = .ok hub) (hcolor : Color.pack channels = .ok color)
    (radii : List Float) (depth : Float) (m : Mesh) : ringFan center radii depth channels m =
      .ok () (m.append (.fan hub (ring hub radii) depth color)) := by
  have hshape : ringShape center radii depth channels = .ok (.fan hub (ring hub radii) depth color) := by
    rw [ringShape, Vec.spread_of_ofPoint hc, hcolor, hc]
    rfl
  rw [ringFan_eq_emit, hshape]
  rfl

/-- A fan around a valid center closes over any valid rim. A disc is a fan over a ring, and a star over a
ring whose radii alternate. -/
theorem fans_close (m : Mesh) (depth : Float) (hc : Vec.ofPoint center = .ok hub) :
    (∀ rim points color, rim.mapM Vec.ofPoint = .ok points →
      ∃ m', fan center rim depth color m = .ok () m' ∧ m.FanAdded m' hub points depth color) ∧
    ∀ channels color, Color.pack channels = .ok color →
      (∀ (radius : Float) (segments : ℕ), ∃ m',
        disc center radius segments depth channels m = .ok () m' ∧
        m.FanAdded m' hub ((List.range segments).map (ringPoint hub radius segments)) depth color) ∧
      ∀ (outer inner : Float) (points : ℕ), ∃ m',
        star center outer inner points depth channels m = .ok () m' ∧
        m.FanAdded m' hub ((List.range (2 * points)).map fun k =>
          ringPoint hub (if k % 2 = 0 then outer else inner) (2 * points) k) depth color := by
  refine ⟨fun rim points color hrim => ?_, fun channels color hcolor => ⟨fun radius n => ?_,
    fun outer inner n => ?_⟩⟩
  · exact ⟨_, fan_of_ok hc hrim depth color m, m.fanAdded_append ..⟩
  · refine ⟨_, ?_, m.fanAdded_append ..⟩
    rw [disc, naturalCount_natCast, ofResult_ok_bind, ringFan_eq_ok hc hcolor, ring_replicate]
  · refine ⟨_, ?_, m.fanAdded_append ..⟩
    rw [star, naturalCount_natCast, ofResult_ok_bind, ringFan_eq_ok hc hcolor, ring_starRadii]

/-- A square around a center with a third coordinate, and a star of a single tip. -/
theorem fans_close_square_and_single_tip : ∃ m center hub rim points,
    m = (⟨#[⟨0, 1, 0.5⟩], #[7], #[]⟩ : Mesh) ∧ center = Coordinates.items [2, 3, 9] ∧
    rim = [.items [3, 3], .items [2, 4], .items [1, 3], .items [2, 2]] ∧
    Vec.ofPoint center = .ok hub ∧ rim.mapM Vec.ofPoint = .ok points ∧
    (∃ m', fan center rim 0 5 m = .ok () m' ∧
      m'.indices = #[1, 2, 3, 1, 3, 4, 1, 4, 5, 1, 5, 2] ∧ m.FanAdded m' hub points 0 5) ∧
    Color.pack [.integer 1, .integer 2, .integer 3, .integer 4] = .ok 0x01020304 ∧
    ∃ m', star center 2 1 (1 : ℕ) 0 [.integer 1, .integer 2, .integer 3, .integer 4] m = .ok () m' ∧
      m.FanAdded m' hub [ringPoint hub 2 2 0, ringPoint hub 1 2 1] 0 0x01020304 := by
  have hcenter : Vec.ofPoint (.items [2, 3, 9]) = .ok ⟨2, 3⟩ := rfl
  have h := fans_close (⟨#[⟨0, 1, 0.5⟩], #[7], #[]⟩ : Mesh) 0 hcenter
  obtain ⟨m', hm', hadded⟩ :=
    h.1 [.items [3, 3], .items [2, 4], .items [1, 3], .items [2, 2]] _ 5 rfl
  have hindices : m'.indices = #[1, 2, 3, 1, 3, 4, 1, 4, 5, 1, 5, 2] := by
    cases hm'
    rfl
  exact ⟨_, _, _, _, _, rfl, rfl, rfl, rfl, rfl, ⟨m', hm', hindices, hadded⟩, rfl,
    (h.2 [.integer 1, .integer 2, .integer 3, .integer 4] _ rfl).2 2 1 1⟩

end Drawing
end PlantGrammar
