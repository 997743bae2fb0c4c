import PlantGrammar.Proofs.Mesh.Distance
import PlantGrammar.Proofs.Mesh.Strokes

/-! # One shape, drawn anywhere

A call on a mesh, other than clearing it, succeeds or fails by its arguments alone. If it succeeds, it
appends what it makes of the empty mesh, whatever the mesh holds: a patch at one depth and in one
color, with triangles between its own points.
-/
namespace PlantGrammar

namespace Mesh
variable {m n : Mesh}

/-- What the second mesh holds, the first holds at the same places. -/
structure StartsWith (m' m : Mesh) : Prop where
  positions : m.positions.toList <+: m'.positions.toList
  colors : m.colors.toList <+: m'.colors.toList
  indices : m.indices.toList <+: m'.indices.toList

theorem startsWith_append (m n : Mesh) : (m.append n).StartsWith m := by
  refine ⟨?_, ?_, ?_⟩ <;> simp [append]

theorem append_eq_self_iff : m.append n = m ↔ n = empty := by
  constructor
  · intro h
    ext1
    · simpa [append, empty] using congrArg positions h
    · simpa [append, empty] using congrArg colors h
    · simpa [append, empty] using congrArg indices h
  · rintro rfl
    exact m.append_empty

theorem toList_indices_append (m n : Mesh) : (m.append n).indices.toList =
    m.indices.toList ++ n.indices.toList.map (· + (m.vertexCount : ℤ)) := by
  simp [append]

/-- The shifted indices of a well-formed mesh name its own vertices. -/
theorem WellFormed.range_shifted (hn : n.WellFormed) (m : Mesh) {i : ℤ}
    (hi : i ∈ n.indices.toList.map (· + (m.vertexCount : ℤ))) :
    m.vertexCount ≤ i ∧ i < (m.append n).vertexCount := by
  obtain ⟨j, hj, rfl⟩ := List.mem_map.mp hi
  have := hn.range j (Array.mem_toList_iff.mp hj)
  rw [vertexCount_append]
  omega

theorem WellFormed.whole_append (hn : n.WellFormed) (hm : 3 ∣ m.indices.size) :
    3 ∣ (m.append n).indices.size := by
  rw [← Array.length_toList, toList_indices_append, List.length_append, List.length_map,
    Array.length_toList, Array.length_toList]
  exact Nat.dvd_add hm hn.triangles

/-- A triangle of the whole is one of the first mesh or lies in the second. -/
theorem WellFormed.mem_triples_append (hn : n.WellFormed) (hm : 3 ∣ m.indices.size)
    {t : ℤ × ℤ × ℤ} (ht : t ∈ triples (m.append n).indices) :
    t ∈ triples m.indices ∨
      ∀ i ∈ corners t, m.vertexCount ≤ i ∧ i < (m.append n).vertexCount := by
  obtain ⟨k, hk⟩ := hm
  obtain ⟨k', hk'⟩ := hn.triangles
  have hlength : m.indices.toList.length = 3 * k := by rw [Array.length_toList, hk]
  have hlength' : (n.indices.toList.map (· + (m.vertexCount : ℤ))).length = 3 * k' := by
    rw [List.length_map, Array.length_toList, hk']
  have harray : (m.append n).indices =
      (m.indices.toList ++ n.indices.toList.map (· + (m.vertexCount : ℤ))).toArray := by
    rw [← toList_indices_append]
  rw [harray, triples_append hlength] at ht
  rcases List.mem_append.mp ht with ht | ht
  · exact .inl ht
  · refine .inr fun i hi => hn.range_shifted m ?_
    rw [← (flatMap_triples hlength').1]
    exact List.mem_flatMap_of_mem ht hi

end Mesh

namespace Drawing
variable {d : Drawing Unit} {m m' n : Mesh} {fault : Fault}

/-- On any mesh, the drawing succeeds just when there is a shape, and appends it. -/
def Draws (d : Drawing Unit) (shape : Except Fault Mesh) : Prop :=
  ∀ m m', d m = .ok () m' ↔ ∃ n, shape = .ok n ∧ m' = m.append n

theorem draws_of_ok (h : ∀ m, d m = .ok () (m.append n)) : d.Draws (.ok n) := by
  intro m m'
  rw [h]
  constructor
  · intro hm
    cases hm
    exact ⟨n, rfl, rfl⟩
  · rintro ⟨_, hn, rfl⟩
    cases hn
    rfl

theorem draws_of_error (h : ∀ m, ∃ m', d m = .error fault m') : d.Draws (.error fault) := by
  intro m m'
  obtain ⟨left, hleft⟩ := h m
  rw [hleft]
  constructor
  · intro hm
    cases hm
  · rintro ⟨_, hn, -⟩
    cases hn

theorem draws_emit (shape : Except Fault Mesh) : (emit shape).Draws shape := by
  cases shape with
  | ok n => exact draws_of_ok fun _ => rfl
  | error fault => exact draws_of_error fun m => ⟨m, rfl⟩

theorem Draws.bind {e : Drawing Unit} {a b : Except Fault Mesh} (hd : d.Draws a) (he : e.Draws b) :
    (d >>= fun _ => e).Draws (do return (← a).append (← b)) := by
  intro m m'
  constructor
  · intro h
    obtain ⟨⟨⟩, k, hk, h⟩ := of_bind_eq_ok h
    obtain ⟨x, rfl, rfl⟩ := (hd m k).mp hk
    obtain ⟨y, rfl, rfl⟩ := (he _ m').mp h
    exact ⟨x.append y, rfl, m.append_assoc x y⟩
  · rintro ⟨n, hn, rfl⟩
    obtain ⟨x, ha, hn⟩ := bind_eq_ok.mp hn
    obtain ⟨y, hb, hn⟩ := bind_eq_ok.mp hn
    cases hn
    have hfirst := (hd m _).mpr ⟨x, ha, rfl⟩
    rw [bind_of_ok hfirst, ← Mesh.append_assoc]
    exact (he _ _).mpr ⟨y, hb, rfl⟩

/-- A single vertex. -/
def vertexShape (point : Coordinates) (depth : Float) (color : ℤ) : Except Fault Mesh := do
  let p ← Vec.ofPoint point
  return .patch [p] depth color []

theorem draws_vertex (point : Coordinates) (depth : Float) (color : ℤ) :
    (discard (vertex point depth color)).Draws (vertexShape point depth color) := by
  unfold vertexShape
  cases hp : Vec.ofPoint point with
  | ok p =>
    refine draws_of_ok fun m => ?_
    have hv := discard_of_ok (vertex_append_patch m [] depth color [] hp)
    rwa [append_patch_nil] at hv
  | error fault => exact draws_of_error fun m => ⟨m, bind_of_error (vertex_of_error hp) _⟩

/-- The fan of a hub and a rim of points. -/
def fanShape (center : Coordinates) (rim : List Coordinates) (depth : Float) (color : ℤ) :
    Except Fault Mesh := do
  let hub ← Vec.ofPoint center
  let vs ← rim.mapM Vec.ofPoint
  return .fan hub vs depth color

theorem draws_fan (center : Coordinates) (rim : List Coordinates) (depth : Float) (color : ℤ) :
    (fan center rim depth color).Draws (fanShape center rim depth color) := by
  unfold fanShape
  cases hc : Vec.ofPoint center with
  | error fault => exact draws_of_error fun m => ⟨m, bind_of_error (vertex_of_error hc) _⟩
  | ok hub =>
    cases hr : rim.mapM Vec.ofPoint with
    | ok vs => exact draws_of_ok (fan_of_ok hc hr depth color)
    | error fault =>
      -- the hub and some of the rim stay behind, but the call is lost on every mesh alike
      refine draws_of_error fun m => ?_
      obtain ⟨vs, hvs⟩ := fan_of_error hc hr depth color m
      exact ⟨_, hvs⟩

end Drawing

namespace Stroke
open Drawing
variable {s : Stroke} {strokes : List Stroke} {m m' n : Mesh} {start finish : Coordinates}

/-- The mesh that a stroke adds, from its arguments alone. Clearing adds none. -/
def shape : Stroke → Except Fault Mesh
  | clear => .ok .empty
  | vertex point depth color => vertexShape point depth color
  | fan center rim depth color => fanShape center rim depth color
  | line start startWidth finish finishWidth depth color =>
    lineShape start startWidth finish finishWidth depth color
  | kite start finish width ratio depth color => kiteShape start finish width ratio depth color
  | box center size rotation depth color => boxShape center size rotation depth color
  | disc center radius segments depth color => discShape center radius segments depth color
  | star center outer inner points depth color => starShape center outer inner points depth color

theorem draws_shape (hs : s ≠ .clear) : s.drawing.Draws s.shape := by
  cases s with
  | clear => exact absurd rfl hs
  | vertex => exact draws_vertex _ _ _
  | fan => exact draws_fan _ _ _ _
  | line => rw [drawing, line_eq_emit]; exact draws_emit _
  | kite => rw [drawing, kite_eq_emit]; exact draws_emit _
  | box => rw [drawing, box_eq_emit]; exact draws_emit _
  | disc => rw [drawing, disc_eq_emit]; exact draws_emit _
  | star => rw [drawing, star_eq_emit]; exact draws_emit _

def depth? : Stroke → Option Float
  | clear => none
  | vertex _ depth _ | fan _ _ depth _ | line _ _ _ _ depth _ | kite _ _ _ _ depth _
  | box _ _ _ depth _ | disc _ _ _ depth _ | star _ _ _ _ depth _ => some depth

/-- The packed color of a stroke, as given or from channels that can be packed. -/
def color? : Stroke → Option ℤ
  | clear => none
  | vertex _ _ color | fan _ _ _ color => some color
  | line _ _ _ _ _ channels | kite _ _ _ _ _ channels | box _ _ _ _ channels
  | disc _ _ _ _ channels | star _ _ _ _ _ channels => (Color.pack channels).toOption

/-- The end points of a shape along a segment. -/
def segment? : Stroke → Option (Coordinates × Coordinates)
  | line start _ finish _ _ _ | kite start finish _ _ _ _ => some (start, finish)
  | _ => none

/-- A shape is a patch at one depth and in one color, or there is nothing to draw. -/
theorem shape_eq_patch (h : s.shape = .ok n) : n = .empty ∨
    ∃ points depth color cs, s.depth? = some depth ∧ s.color? = some color ∧
      n = .patch points depth color cs := by
  have hcolor {channels : List Channel} {packed : ℤ} (hp : Color.pack channels = .ok packed) :
      (Color.pack channels).toOption = some packed := by rw [hp]; rfl
  cases s with
  | clear =>
    cases h
    exact .inl rfl
  | vertex point depth color =>
    obtain ⟨p, -, h⟩ := bind_eq_ok.mp h
    cases h
    exact .inr ⟨_, depth, color, _, rfl, rfl, rfl⟩
  | fan center rim depth color =>
    obtain ⟨hub, -, h⟩ := bind_eq_ok.mp h
    obtain ⟨vs, -, h⟩ := bind_eq_ok.mp h
    cases h
    exact .inr ⟨_, depth, color, _, rfl, rfl, rfl⟩
  | line start startWidth finish finishWidth depth channels =>
    obtain ⟨p, q, -, -, hcase⟩ := lineShape_eq_ok h
    split at hcase
    · obtain ⟨packed, hp, rfl⟩ := hcase
      exact .inr ⟨_, depth, packed, _, rfl, hcolor hp, rfl⟩
    · exact .inl hcase
  | kite start finish width ratio depth channels =>
    obtain ⟨p, q, -, -, hcase⟩ := kiteShape_eq_ok h
    split at hcase
    · obtain ⟨packed, hp, rfl⟩ := hcase
      exact .inr ⟨_, depth, packed, _, rfl, hcolor hp, rfl⟩
    · exact .inl hcase
  | box center size rotation depth channels =>
    obtain ⟨p, extent, packed, -, -, hp, rfl⟩ := boxShape_eq_ok h
    exact .inr ⟨_, depth, packed, _, rfl, hcolor hp, rfl⟩
  | disc center radius segments depth channels =>
    obtain ⟨p, packed, count, -, -, hp, rfl⟩ := discShape_eq_ok h
    exact .inr ⟨_, depth, packed, _, rfl, hcolor hp, rfl⟩
  | star center outer inner points depth channels =>
    obtain ⟨p, packed, count, -, -, hp, rfl⟩ := starShape_eq_ok h
    exact .inr ⟨_, depth, packed, _, rfl, hcolor hp, rfl⟩

theorem depth_of_shape (h : s.shape = .ok n) : ∀ p ∈ n.positions, s.depth? = some p.depth := by
  intro p hp
  rcases shape_eq_patch h with rfl | ⟨points, depth, color, cs, hd, -, rfl⟩
  · exact absurd hp (Array.not_mem_empty p)
  · obtain ⟨v, -, rfl⟩ := List.mem_map.mp (List.mem_toArray.mp hp)
    exact hd

theorem color_of_shape (h : s.shape = .ok n) : ∀ c ∈ n.colors, s.color? = some c := by
  intro c hc
  rcases shape_eq_patch h with rfl | ⟨points, depth, color, cs, -, hcolor, rfl⟩
  · exact absurd hc (Array.not_mem_empty c)
  · obtain rfl := List.eq_of_mem_replicate (List.mem_toArray.mp hc)
    exact hcolor

/-- What the stroke leaves of the empty mesh is well-formed, as is anything drawn. -/
theorem wellFormed_shape (hs : s ≠ .clear) (h : s.shape = .ok n) : n.WellFormed := by
  have hempty : s.drawing .empty = .ok () n :=
    (draws_shape hs .empty n).mpr ⟨n, h, n.empty_append.symm⟩
  have hleaves : s.drawing.leaves .empty = n := leaves_of_ok hempty
  rcases s.leaves_eq .empty with he | ⟨k, hk, hpiece⟩
  · rw [← hleaves, he]
    exact Mesh.wellFormed_empty
  · rw [← hleaves, hk, Mesh.empty_append]
    exact hpiece.wellFormed

/-- Along a segment there is nothing to draw unless its end points are apart. -/
theorem shape_of_segment (hseg : s.segment? = some (start, finish)) (h : s.shape = .ok n) :
    ∃ p q, start.spread = .ok p ∧ finish.spread = .ok q ∧ (n = .empty ↔ ¬ p.Apart q) := by
  cases s with
  | line start' startWidth finish' finishWidth depth channels =>
    cases hseg
    obtain ⟨p, q, hp, hq, hcase⟩ := lineShape_eq_ok h
    refine ⟨p, q, hp, hq, ?_⟩
    split_ifs at hcase with hpq
    · obtain ⟨packed, -, rfl⟩ := hcase
      exact iff_of_false (Mesh.counts_quad ..).ne_empty (not_not_intro hpq)
    · exact iff_of_true hcase hpq
  | kite start' finish' width ratio depth channels =>
    cases hseg
    obtain ⟨p, q, hp, hq, hcase⟩ := kiteShape_eq_ok h
    refine ⟨p, q, hp, hq, ?_⟩
    split_ifs at hcase with hpq
    · obtain ⟨packed, -, rfl⟩ := hcase
      exact iff_of_false (Mesh.counts_kite ..).ne_empty (not_not_intro hpq)
    · exact iff_of_true hcase hpq
  | clear | vertex | fan | box | disc | star => cases hseg

/-- Drawing a shape on a mesh appends what it leaves of the empty mesh. A triangle that was there is the
same as before, loose or not, and a new one lies among the new vertices. -/
theorem drawing_translates (hs : s ≠ .clear) (h : s.drawing m = .ok () m') :
    ∃ n, s.drawing .empty = .ok () n ∧ m' = m.append n ∧
      (∀ k, s.drawing k = .ok () (k.append n)) ∧ m'.StartsWith m ∧ n.WellFormed ∧
      (∀ i ∈ m'.indices.toList.drop m.indices.size, m.vertexCount ≤ i ∧ i < m'.vertexCount) ∧
      (3 ∣ m.indices.size → ∀ t ∈ Mesh.triples m'.indices, t ∈ Mesh.triples m.indices ∨
        ∀ i ∈ Mesh.corners t, m.vertexCount ≤ i ∧ i < m'.vertexCount) ∧
      (∀ p ∈ n.positions, s.depth? = some p.depth) ∧ (∀ c ∈ n.colors, s.color? = some c) ∧
      ∀ start finish, s.segment? = some (start, finish) →
        ∃ p q, start.spread = .ok p ∧ finish.spread = .ok q ∧ (m' = m ↔ ¬ p.Apart q) ∧
          (p = q ∨ ¬ p.IsFinite ∨ ¬ q.IsFinite → m' = m) := by
  obtain ⟨n, hn, rfl⟩ := (draws_shape hs m m').mp h
  have hany (k : Mesh) : s.drawing k = .ok () (k.append n) := (draws_shape hs k _).mpr ⟨n, hn, rfl⟩
  have hwell := wellFormed_shape hs hn
  refine ⟨n, ?_, rfl, hany, m.startsWith_append n, hwell, ?_, fun hm t => hwell.mem_triples_append hm,
    depth_of_shape hn, color_of_shape hn, ?_⟩
  · rw [hany, Mesh.empty_append]
  · intro i hi
    rw [Mesh.toList_indices_append, ← Array.length_toList, List.drop_left] at hi
    exact hwell.range_shifted m hi
  · intro start finish hseg
    obtain ⟨p, q, hp, hq, hempty⟩ := shape_of_segment hseg hn
    have hself : m.append n = m ↔ ¬ p.Apart q := Mesh.append_eq_self_iff.trans hempty
    refine ⟨p, q, hp, hq, hself, fun hnear => hself.mpr fun hpq => ?_⟩
    rcases hnear with hnear | hnear | hnear
    · exact hpq.ne hnear
    · exact hnear hpq.isFinite.1
    · exact hnear hpq.isFinite.2

/-- A fan after a triangle between vertices that are not there. -/
theorem drawing_translates_after_loose_indices : ∃ m m' n : Mesh,
    m = ⟨#[⟨0, 0, 0⟩], #[], #[5, -1, 0]⟩ ∧
    (Stroke.fan (.items [0, 0]) [.items [1, 0], .items [0, 1]] 0.5 7).drawing m = .ok () m' ∧
    m'.indices = #[5, -1, 0, 1, 2, 3, 1, 3, 2] ∧
    (Stroke.fan (.items [0, 0]) [.items [1, 0], .items [0, 1]] 0.5 7).drawing .empty = .ok () n ∧
    m' = m.append n ∧ m'.StartsWith m ∧
    (∀ t ∈ Mesh.triples m'.indices, t ∈ Mesh.triples m.indices ∨
      ∀ i ∈ Mesh.corners t, m.vertexCount ≤ i ∧ i < m'.vertexCount) ∧
    (∀ p ∈ n.positions, some 0.5 = some p.depth) ∧ ∀ c ∈ n.colors, some 7 = some c := by
  have hfan : Stroke.fan (.items [0, 0]) [.items [1, 0], .items [0, 1]] 0.5 7 ≠ .clear := by simp
  obtain ⟨n, hn, hm, -, hstarts, -, -, htriples, hdepth, hcolor, -⟩ :=
    drawing_translates (m := ⟨#[⟨0, 0, 0⟩], #[], #[5, -1, 0]⟩) hfan rfl
  exact ⟨_, _, n, rfl, rfl, rfl, hn, hm, hstarts, htriples ⟨1, rfl⟩, hdepth, hcolor⟩

/-- The strokes in turn, until one fails. -/
def drawAll (strokes : List Stroke) : Drawing Unit := forM strokes drawing

theorem drawAll_cons (s : Stroke) (strokes : List Stroke) :
    drawAll (s :: strokes) = s.drawing >>= fun _ => drawAll strokes := rfl

theorem drawAll_append_singleton (h : drawAll (strokes ++ [s]) m = .ok () m') :
    ∃ k, drawAll strokes m = .ok () k ∧ s.drawing k = .ok () m' := by
  unfold drawAll at h
  rw [List.forM_append] at h
  obtain ⟨⟨⟩, k, hk, h⟩ := of_bind_eq_ok h
  obtain ⟨⟨⟩, k', hk', h⟩ := of_bind_eq_ok h
  cases h
  exact ⟨k, hk, hk'⟩

/-- Strokes in a row draw the shapes in a row. -/
theorem draws_drawAll (hs : ∀ s ∈ strokes, s ≠ .clear) :
    (drawAll strokes).Draws (Mesh.concat <$> strokes.mapM shape) := by
  induction strokes with
  | nil =>
    have hnone : Mesh.concat <$> [].mapM shape = .ok .empty := rfl
    rw [hnone]
    exact draws_of_ok fun m => congrArg (EStateM.Result.ok ()) m.append_empty.symm
  | cons s strokes ih =>
    have hfirst := draws_shape (hs s (by simp))
    have hrest := ih fun r hr => hs r (List.mem_cons_of_mem s hr)
    have hshapes : Mesh.concat <$> (s :: strokes).mapM shape =
        (do return (← s.shape).append (← Mesh.concat <$> strokes.mapM shape)) := by
      rw [List.mapM_cons]
      cases s.shape with
      | error fault => rfl
      | ok n =>
        cases strokes.mapM shape with
        | error fault => rfl
        | ok shapes => exact congrArg Except.ok (Mesh.concat_cons n shapes)
    rw [drawAll_cons, hshapes]
    exact hfirst.bind hrest

/-- Every triangle that strokes add lies among the vertices of one of them. -/
theorem triangles_of_drawAll (hs : ∀ s ∈ strokes, s ≠ .clear) (hm : 3 ∣ m.indices.size)
    (h : drawAll strokes m = .ok () m') : 3 ∣ m'.indices.size ∧
      ∀ t ∈ Mesh.triples m'.indices, t ∈ Mesh.triples m.indices ∨
        ∃ before s after k k', strokes = before ++ s :: after ∧ drawAll before m = .ok () k ∧
          s.drawing k = .ok () k' ∧ ∀ i ∈ Mesh.corners t, k.vertexCount ≤ i ∧ i < k'.vertexCount := by
  induction strokes using List.reverseRecOn generalizing m' with
  | nil =>
    cases h
    exact ⟨hm, fun t ht => .inl ht⟩
  | append_singleton strokes s ih =>
    obtain ⟨k, hk, h⟩ := drawAll_append_singleton h
    obtain ⟨hwhole, hold⟩ := ih (fun r hr => hs r (List.mem_append_left _ hr)) hk
    have hclear : s ≠ .clear := hs s (by simp)
    obtain ⟨n, hn, rfl⟩ := (draws_shape hclear k m').mp h
    have hwell := wellFormed_shape hclear hn
    refine ⟨hwell.whole_append hwhole, fun t ht => ?_⟩
    -- the last stroke leaves the earlier triangles alone, so their strokes are found as before
    rcases hwell.mem_triples_append hwhole ht with ht | ht
    · rcases hold t ht with ht | ⟨before, r, after, j, j', rfl, hj, hr, ht⟩
      · exact .inl ht
      · exact .inr ⟨before, r, after ++ [s], j, j', by simp, hj, hr, ht⟩
    · exact .inr ⟨strokes, s, [], k, _, rfl, hk, h, ht⟩

end Stroke
end PlantGrammar
