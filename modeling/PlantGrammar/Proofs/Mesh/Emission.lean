import PlantGrammar.Mesh.Shape
import PlantGrammar.Proofs.Mesh.Append
import PlantGrammar.Proofs.Mesh.Frame

/-! # Shapes drawn as a whole

Every flat shape is a mesh of its own, computed from the arguments alone. Drawing it appends this mesh
to what is there, or fails and appends nothing.
-/
namespace PlantGrammar

theorem of_bind_eq_ok {σ α β : Type} {x : EStateM Fault σ α} {k : α → EStateM Fault σ β} {b : β}
    {c c' : σ} (h : (x >>= k) c = .ok b c') : ∃ a c₁, x c = .ok a c₁ ∧ k a c₁ = .ok b c' := by
  change EStateM.bind x k c = _ at h
  unfold EStateM.bind at h
  split at h
  · exact ⟨_, _, ‹_›, h⟩
  · cases h

theorem Drawing.length_ring (center : Vec) (radii : List Float) :
    (ring center radii).length = radii.length := by
  simp [ring]

theorem Drawing.length_starRadii (outer inner : Float) (points : ℕ) :
    (starRadii outer inner points).length = 2 * points := by
  simp [starRadii, Nat.mul_comm]

namespace Mesh

/-- Points at one depth and in one color, and triangles by the numbers of their points. -/
def patch (points : List Vec) (depth : Float) (color : ℤ) (corners : List ℕ) : Mesh :=
  ⟨(points.map fun p => ⟨p.x, p.y, depth⟩).toArray, (List.replicate points.length color).toArray,
    (corners.map Int.ofNat).toArray⟩

/-- Corners of the two triangles of a quadrangle. -/
def halves : List ℕ := [0, 1, 2, 0, 2, 3]

def quad (f : Frame) (startWidth finishWidth depth : Float) (color : ℤ) : Mesh :=
  let p := f.origin
  let q := p.add (f.direction.scale f.length)
  let near := (f.normal.scale startWidth).scale 0.5
  let far := (f.normal.scale finishWidth).scale 0.5
  patch [p.add near, p.sub near, q.sub far, q.add far] depth color halves

def kite (f : Frame) (width ratio depth : Float) (color : ℤ) : Mesh :=
  let along := f.direction.scale f.length
  let waist := f.origin.add (along.scale ratio)
  let side := (f.normal.scale width).scale 0.5
  patch [f.origin, waist.add side, f.origin.add along, waist.sub side] depth color halves

def box (center size : Vec) (rotation depth : Float) (color : ℤ) : Mesh :=
  patch (Drawing.boxCorners (size.scale 0.5) rotation center) depth color halves

/-- Corners of the triangles from a hub to each side of a closed rim of so many points. -/
def spokes (count : ℕ) : List ℕ :=
  (List.range count).flatMap fun i => [0, 1 + i, 1 + (i + 1) % count]

def fan (hub : Vec) (rim : List Vec) (depth : Float) (color : ℤ) : Mesh :=
  patch (hub :: rim) depth color (spokes rim.length)

def disc (center : Vec) (radius : Float) (segments : ℕ) (depth : Float) (color : ℤ) : Mesh :=
  fan center (Drawing.ring center (List.replicate segments radius)) depth color

def star (center : Vec) (outer inner : Float) (points : ℕ) (depth : Float) (color : ℤ) : Mesh :=
  fan center (Drawing.ring center (Drawing.starRadii outer inner points)) depth color

theorem counts_patch {points : List Vec} {corners : List ℕ} {t : ℕ} (h : corners.length = 3 * t)
    (depth : Float) (color : ℤ) : (patch points depth color corners).Counts points.length t := by
  refine ⟨?_, ?_, ?_⟩
  · simp [patch]
  · simp [patch]
  · simpa [patch] using h

theorem counts_quad (f : Frame) (startWidth finishWidth depth : Float) (color : ℤ) :
    (quad f startWidth finishWidth depth color).Counts 4 2 :=
  counts_patch rfl depth color

theorem counts_kite (f : Frame) (width ratio depth : Float) (color : ℤ) :
    (kite f width ratio depth color).Counts 4 2 :=
  counts_patch rfl depth color

theorem counts_box (center size : Vec) (rotation depth : Float) (color : ℤ) :
    (box center size rotation depth color).Counts 4 2 :=
  counts_patch rfl depth color

theorem length_spokes (count : ℕ) : (spokes count).length = 3 * count := by
  simp [spokes, Nat.mul_comm]

theorem counts_fan (hub : Vec) (rim : List Vec) (depth : Float) (color : ℤ) :
    (fan hub rim depth color).Counts (rim.length + 1) rim.length :=
  counts_patch (length_spokes rim.length) depth color

theorem counts_disc (center : Vec) (radius : Float) (segments : ℕ) (depth : Float) (color : ℤ) :
    (disc center radius segments depth color).Counts (segments + 1) segments := by
  have h := counts_fan center (Drawing.ring center (List.replicate segments radius)) depth color
  rwa [Drawing.length_ring, List.length_replicate] at h

theorem counts_star (center : Vec) (outer inner : Float) (points : ℕ) (depth : Float) (color : ℤ) :
    (star center outer inner points depth color).Counts (2 * points + 1) (2 * points) := by
  have h := counts_fan center (Drawing.ring center (Drawing.starRadii outer inner points)) depth color
  rwa [Drawing.length_ring, Drawing.length_starRadii] at h

end Mesh

namespace Drawing
variable {m m' : Mesh} {depth : Float} {color : ℤ} {ps : List Vec} {cs : List ℕ}

/-- Append a shape, or fail and append nothing. -/
def emit (shape : Except Fault Mesh) : Drawing Unit := fun m =>
  match shape with
  | .ok n => .ok () (m.append n)
  | .error fault => .error fault m

theorem ofResult_ok_bind {α β : Type} (a : α) (k : α → Drawing β) :
    (ofResult (.ok a) >>= k) = k a := rfl

theorem ok_bind {α β : Type} (a : α) (k : α → Except Fault β) : (Except.ok a >>= k) = k a := rfl

theorem bind_of_ok {α β : Type} {x : Drawing α} {a : α} (h : x m = .ok a m') (k : α → Drawing β) :
    (x >>= k) m = k a m' := by
  change EStateM.bind x k m = _
  simp only [EStateM.bind, h]

theorem bind_of_error {α β : Type} {x : Drawing α} {fault : Fault} (h : x m = .error fault m')
    (k : α → Drawing β) : (x >>= k) m = .error fault m' := by
  change EStateM.bind x k m = _
  simp only [EStateM.bind, h]

theorem discard_of_ok {α : Type} {x : Drawing α} {a : α} (h : x m = .ok a m') :
    discard x m = .ok () m' := by
  change EStateM.map _ x m = _
  simp only [EStateM.map, h]

theorem append_patch_nil (m : Mesh) (depth : Float) (color : ℤ) :
    m.append (.patch [] depth color []) = m :=
  m.append_empty

theorem ofPoint_coordinates (p : Vec) : Vec.ofPoint p.coordinates = .ok p := rfl

theorem vertex_append_patch (m : Mesh) (ps : List Vec) (depth : Float) (color : ℤ) (cs : List ℕ)
    {point : Coordinates} {p : Vec} (h : Vec.ofPoint point = .ok p) :
    vertex point depth color (m.append (.patch ps depth color cs)) =
      .ok (m.vertexCount + ps.length) (m.append (.patch (ps ++ [p]) depth color cs)) := by
  unfold vertex
  rw [h]
  change EStateM.Result.ok _ _ = EStateM.Result.ok _ _
  simp [Mesh.append, Mesh.patch, Mesh.vertexCount, Array.replicate_succ]

theorem vertex_of_error {point : Coordinates} {fault : Fault} (h : Vec.ofPoint point = .error fault) :
    vertex point depth color m = .error fault m := by
  unfold vertex
  rw [h]
  rfl

theorem triangle_append_patch (a b c : ℕ) :
    triangle (m.vertexCount + a : ℕ) (m.vertexCount + b : ℕ) (m.vertexCount + c : ℕ)
      (m.append (.patch ps depth color cs)) =
      .ok () (m.append (.patch ps depth color (cs ++ [a, b, c]))) := by
  change EStateM.Result.ok _ _ = EStateM.Result.ok _ _
  simp [Mesh.append, Mesh.patch, Int.add_comm]

theorem forM_vertex_append_patch (m : Mesh) (ps vs : List Vec) (depth : Float) (color : ℤ)
    (cs : List ℕ) : (vs.forM fun p => discard (vertex p.coordinates depth color))
      (m.append (.patch ps depth color cs)) = .ok () (m.append (.patch (ps ++ vs) depth color cs)) := by
  induction vs generalizing ps with
  | nil => rw [List.append_nil]; rfl
  | cons v vs ih =>
    have hv := discard_of_ok (vertex_append_patch m ps depth color cs (ofPoint_coordinates v))
    change (discard (vertex v.coordinates depth color) >>= fun _ => vs.forM _ : Drawing Unit) _ = _
    rw [bind_of_ok hv, ih, List.append_assoc]
    rfl

/-- Triangles in a row, the corners of each counted from the first vertex of the patch. -/
theorem forM_triangle_append_patch (m : Mesh) (ps : List Vec) (depth : Float) (color : ℤ)
    (cs : List ℕ) (f g h : ℕ → ℕ) (is : List ℕ) :
    (is.forM fun i => triangle (m.vertexCount + f i : ℕ) (m.vertexCount + g i : ℕ)
      (m.vertexCount + h i : ℕ)) (m.append (.patch ps depth color cs)) =
      .ok () (m.append (.patch ps depth color (cs ++ is.flatMap fun i => [f i, g i, h i]))) := by
  induction is generalizing cs with
  | nil => rw [List.flatMap_nil, List.append_nil]; rfl
  | cons i is ih =>
    change (triangle _ _ _ >>= fun _ => is.forM _) _ = _
    rw [bind_of_ok (triangle_append_patch ..), ih, List.append_assoc]
    rfl

/-- Four points and the two triangles between them. -/
theorem quadrangle_eq {p₁ p₂ p₃ p₄ : Coordinates} {v₁ v₂ v₃ v₄ : Vec}
    (h₁ : Vec.ofPoint p₁ = .ok v₁) (h₂ : Vec.ofPoint p₂ = .ok v₂) (h₃ : Vec.ofPoint p₃ = .ok v₃)
    (h₄ : Vec.ofPoint p₄ = .ok v₄) (depth : Float) (color : ℤ) (m : Mesh) :
    (do
      let a ← vertex p₁ depth color
      let b ← vertex p₂ depth color
      let c ← vertex p₃ depth color
      let d ← vertex p₄ depth color
      triangle a b c
      triangle a c d : Drawing Unit) m =
      .ok () (m.append (.patch [v₁, v₂, v₃, v₄] depth color Mesh.halves)) := by
  -- the lemmas on single steps grow a patch, so the mesh is read as itself with an empty one
  conv_lhs => rw [← append_patch_nil m depth color]
  rw [bind_of_ok (vertex_append_patch _ _ _ _ _ h₁), bind_of_ok (vertex_append_patch _ _ _ _ _ h₂),
    bind_of_ok (vertex_append_patch _ _ _ _ _ h₃), bind_of_ok (vertex_append_patch _ _ _ _ _ h₄),
    bind_of_ok (triangle_append_patch ..), triangle_append_patch]
  rfl

/-- The quad of a line, nothing on a segment without a frame. -/
def lineShape (start : Coordinates) (startWidth : Float) (finish : Coordinates)
    (finishWidth depth : Float) (color : List Channel) : Except Fault Mesh := do
  let some f ← Frame.of start finish | return .empty
  return .quad f startWidth finishWidth depth (← Color.pack color)

theorem line_eq_emit (start : Coordinates) (startWidth : Float) (finish : Coordinates)
    (finishWidth depth : Float) (color : List Channel) :
    line start startWidth finish finishWidth depth color =
      emit (lineShape start startWidth finish finishWidth depth color) := by
  funext m
  unfold line lineShape
  cases Frame.of start finish with
  | error fault => rfl
  | ok f? =>
    cases f? with
    | none => exact congrArg (EStateM.Result.ok ()) m.append_empty.symm
    | some f =>
      cases Color.pack color with
      | error fault => rfl
      | ok packed =>
        exact quadrangle_eq (ofPoint_coordinates _) (ofPoint_coordinates _)
          (ofPoint_coordinates _) (ofPoint_coordinates _) depth packed m

/-- The kite on a segment, nothing without a frame. Its tail needs two coordinates. -/
def kiteShape (start finish : Coordinates) (width ratio depth : Float) (color : List Channel) :
    Except Fault Mesh := do
  let some f ← Frame.of start finish | return .empty
  let packed ← Color.pack color
  let _ ← Vec.ofPoint (.items f.base)
  return .kite f width ratio depth packed

theorem kite_eq_emit (start finish : Coordinates) (width ratio depth : Float)
    (color : List Channel) :
    kite start finish width ratio depth color =
      emit (kiteShape start finish width ratio depth color) := by
  funext m
  unfold kite kiteShape
  cases hf : Frame.of start finish with
  | error fault => rfl
  | ok f? =>
    cases f? with
    | none => exact congrArg (EStateM.Result.ok ()) m.append_empty.symm
    | some f =>
      cases Color.pack color with
      | error fault => rfl
      | ok packed =>
        simp only [ofResult_ok_bind, ok_bind]
        cases htail : Vec.ofPoint (.items f.base) with
        | error fault => exact bind_of_error (vertex_of_error htail) _
        | ok tail =>
          obtain rfl : tail = f.origin := Frame.tail_eq_origin hf htail
          exact quadrangle_eq htail (ofPoint_coordinates _) (ofPoint_coordinates _)
            (ofPoint_coordinates _) depth packed m

/-- The box around a center of one or two coordinates. -/
def boxShape (center size : Coordinates) (rotation depth : Float) (color : List Channel) :
    Except Fault Mesh := do
  let size ← size.spread
  let middle ← center.spread
  return .box middle size rotation depth (← Color.pack color)

theorem box_eq_emit (center size : Coordinates) (rotation depth : Float) (color : List Channel) :
    box center size rotation depth color = emit (boxShape center size rotation depth color) := by
  funext m
  change (ofResult size.spread >>= fun half => ofResult center.spread >>= fun middle => _) m = _
  unfold boxShape
  cases size.spread with
  | error fault => rfl
  | ok size =>
    cases center.spread with
    | error fault => rfl
    | ok middle =>
      cases Color.pack color with
      | error fault => rfl
      | ok packed =>
        have hcorners := forM_vertex_append_patch m [] (boxCorners (size.scale 0.5) rotation middle)
          depth packed []
        rw [append_patch_nil, List.nil_append] at hcorners
        have hbody : (do
            (boxCorners (size.scale 0.5) rotation middle).forM fun p =>
              discard (vertex p.coordinates depth packed)
            triangle m.vertexCount (m.vertexCount + 1 : ℕ) (m.vertexCount + 2 : ℕ)
            triangle m.vertexCount (m.vertexCount + 2 : ℕ) (m.vertexCount + 3 : ℕ) : Drawing Unit) m =
            .ok () (m.append (.box middle size rotation depth packed)) := by
          rw [bind_of_ok hcorners]
          exact (bind_of_ok (triangle_append_patch 0 1 2) _).trans (triangle_append_patch 0 2 3)
        exact hbody

/-- The fan of a ring around a center, whose hub needs two coordinates. -/
def ringShape (center : Coordinates) (radii : List Float) (depth : Float) (color : List Channel) :
    Except Fault Mesh := do
  let hub ← center.spread
  let packed ← Color.pack color
  let _ ← Vec.ofPoint center
  return .fan hub (ring hub radii) depth packed

theorem fan_eq {center : Coordinates} {hub : Vec} (hc : Vec.ofPoint center = .ok hub)
    (rim : List Vec) (depth : Float) (color : ℤ) (m : Mesh) :
    fan center (rim.map Vec.coordinates) depth color m =
      .ok () (m.append (.fan hub rim depth color)) := by
  have hhub : vertex center depth color m =
      .ok (m.vertexCount + 0) (m.append (.patch [hub] depth color [])) := by
    conv_lhs => rw [← append_patch_nil m depth color]
    exact vertex_append_patch _ _ _ _ _ hc
  have hrim := forM_vertex_append_patch m [hub] rim depth color []
  have hpoints : (rim.map Vec.coordinates).forM (fun point => discard (vertex point depth color)) =
      rim.forM fun p => discard (vertex p.coordinates depth color) := List.forM_map
  rw [← hpoints] at hrim
  have hsides := forM_triangle_append_patch m (hub :: rim) depth color [] (fun _ => 0) (1 + ·)
    (fun i => 1 + (i + 1) % rim.length) (List.range rim.length)
  have hfirst : (m.append (.patch [hub] depth color [])).vertexCount = m.vertexCount + 1 :=
    m.vertexCount_append _
  unfold fan
  rw [bind_of_ok hhub, bind_of_ok (x := get) rfl, hfirst]
  refine (bind_of_ok hrim _).trans ?_
  simp only [Nat.add_assoc, List.length_map]
  exact hsides

theorem ringFan_eq_emit (center : Coordinates) (radii : List Float) (depth : Float)
    (color : List Channel) :
    ringFan center radii depth color = emit (ringShape center radii depth color) := by
  funext m
  change (ofResult center.spread >>= fun hub => _) m = _
  unfold ringShape
  cases hs : center.spread with
  | error fault => rfl
  | ok hub =>
    cases Color.pack color with
    | error fault => rfl
    | ok packed =>
      simp only [ofResult_ok_bind, ok_bind]
      cases hc : Vec.ofPoint center with
      | error fault => exact bind_of_error (vertex_of_error hc) _
      | ok hub' =>
        obtain rfl : hub' = hub := Except.ok.inj ((Vec.spread_of_ofPoint hc).symm.trans hs)
        exact fan_eq hc _ depth packed m

/-- A disc with so many segments, if that is a number of them. -/
def discShape (center : Coordinates) (radius : Float) (segments : ℤ) (depth : Float)
    (color : List Channel) : Except Fault Mesh := do
  let n ← naturalCount segments
  ringShape center (List.replicate n radius) depth color

theorem disc_eq_emit (center : Coordinates) (radius : Float) (segments : ℤ) (depth : Float)
    (color : List Channel) :
    disc center radius segments depth color =
      emit (discShape center radius segments depth color) := by
  funext m
  unfold disc discShape
  cases naturalCount segments with
  | error fault => rfl
  | ok n => exact congrFun (ringFan_eq_emit ..) m

/-- A star with so many tips, if that is a number of them. -/
def starShape (center : Coordinates) (outer inner : Float) (points : ℤ) (depth : Float)
    (color : List Channel) : Except Fault Mesh := do
  let n ← naturalCount points
  ringShape center (starRadii outer inner n) depth color

theorem star_eq_emit (center : Coordinates) (outer inner : Float) (points : ℤ) (depth : Float)
    (color : List Channel) :
    star center outer inner points depth color =
      emit (starShape center outer inner points depth color) := by
  funext m
  unfold star starShape
  cases naturalCount points with
  | error fault => rfl
  | ok n => exact congrFun (ringFan_eq_emit ..) m

section
variable {n : Mesh} {channels : List Channel} {start finish center size : Coordinates}

/-- A shape along a segment has a frame to be drawn in, or it is empty. -/
theorem framed_eq_ok {k : Frame → Except Fault Mesh}
    (h : (do
      let some f ← Frame.of start finish | return .empty
      k f) = .ok n) :
    ∃ p q, start.spread = .ok p ∧ finish.spread = .ok q ∧
      if p.Apart q then ∃ base, k { Frame.between p q with base } = .ok n else n = .empty := by
  obtain ⟨f?, hf, h⟩ := bind_eq_ok.mp h
  obtain ⟨p, q, hp, hq, hcase⟩ := Frame.of_eq_ok hf
  refine ⟨p, q, hp, hq, ?_⟩
  by_cases hpq : p.Apart q
  · rw [if_pos hpq] at hcase ⊢
    obtain ⟨base, -, rfl⟩ := hcase
    exact ⟨base, h⟩
  · rw [if_neg hpq] at hcase ⊢
    subst hcase
    exact (Except.ok.inj h).symm

theorem lineShape_eq_ok {startWidth finishWidth : Float}
    (h : lineShape start startWidth finish finishWidth depth channels = .ok n) :
    ∃ p q, start.spread = .ok p ∧ finish.spread = .ok q ∧
      if p.Apart q then ∃ packed, Color.pack channels = .ok packed ∧
        n = .quad (.between p q) startWidth finishWidth depth packed
      else n = .empty := by
  unfold lineShape at h
  obtain ⟨p, q, hp, hq, hcase⟩ := framed_eq_ok h
  refine ⟨p, q, hp, hq, ?_⟩
  split_ifs at hcase ⊢
  · obtain ⟨base, h⟩ := hcase
    obtain ⟨packed, hpacked, h⟩ := bind_eq_ok.mp h
    cases h
    exact ⟨packed, hpacked, rfl⟩
  · exact hcase

theorem kiteShape_eq_ok {width ratio : Float}
    (h : kiteShape start finish width ratio depth channels = .ok n) :
    ∃ p q, start.spread = .ok p ∧ finish.spread = .ok q ∧
      if p.Apart q then ∃ packed, Color.pack channels = .ok packed ∧
        n = .kite (.between p q) width ratio depth packed
      else n = .empty := by
  unfold kiteShape at h
  obtain ⟨p, q, hp, hq, hcase⟩ := framed_eq_ok h
  refine ⟨p, q, hp, hq, ?_⟩
  split_ifs at hcase ⊢
  · obtain ⟨base, h⟩ := hcase
    obtain ⟨packed, hpacked, h⟩ := bind_eq_ok.mp h
    obtain ⟨tail, -, h⟩ := bind_eq_ok.mp h
    cases h
    exact ⟨packed, hpacked, rfl⟩
  · exact hcase

theorem boxShape_eq_ok {rotation : Float}
    (h : boxShape center size rotation depth channels = .ok n) :
    ∃ p extent packed, center.spread = .ok p ∧ size.spread = .ok extent ∧
      Color.pack channels = .ok packed ∧ n = .box p extent rotation depth packed := by
  obtain ⟨extent, hextent, h⟩ := bind_eq_ok.mp h
  obtain ⟨p, hp, h⟩ := bind_eq_ok.mp h
  obtain ⟨packed, hpacked, h⟩ := bind_eq_ok.mp h
  cases h
  exact ⟨p, extent, packed, hp, hextent, hpacked, rfl⟩

theorem naturalCount_eq_ok {k : ℤ} {count : ℕ} (h : naturalCount k = .ok count) : k = count := by
  unfold naturalCount at h
  split at h
  · cases h
  · cases h
    omega

theorem ringShape_eq_ok {radii : List Float}
    (h : ringShape center radii depth channels = .ok n) :
    ∃ p packed, center.spread = .ok p ∧ Color.pack channels = .ok packed ∧
      n = .fan p (ring p radii) depth packed := by
  obtain ⟨p, hp, h⟩ := bind_eq_ok.mp h
  obtain ⟨packed, hpacked, h⟩ := bind_eq_ok.mp h
  obtain ⟨hub, -, h⟩ := bind_eq_ok.mp h
  cases h
  exact ⟨p, packed, hp, hpacked, rfl⟩

theorem discShape_eq_ok {radius : Float} {segments : ℤ}
    (h : discShape center radius segments depth channels = .ok n) :
    ∃ p packed, ∃ count : ℕ, segments = count ∧ center.spread = .ok p ∧
      Color.pack channels = .ok packed ∧ n = .disc p radius count depth packed := by
  obtain ⟨count, hcount, h⟩ := bind_eq_ok.mp h
  obtain ⟨p, packed, hp, hpacked, hn⟩ := ringShape_eq_ok h
  exact ⟨p, packed, count, naturalCount_eq_ok hcount, hp, hpacked, hn⟩

theorem starShape_eq_ok {outer inner : Float} {points : ℤ}
    (h : starShape center outer inner points depth channels = .ok n) :
    ∃ p packed, ∃ count : ℕ, points = count ∧ center.spread = .ok p ∧
      Color.pack channels = .ok packed ∧ n = .star p outer inner count depth packed := by
  obtain ⟨count, hcount, h⟩ := bind_eq_ok.mp h
  obtain ⟨p, packed, hp, hpacked, hn⟩ := ringShape_eq_ok h
  exact ⟨p, packed, count, naturalCount_eq_ok hcount, hp, hpacked, hn⟩

end
end Drawing
end PlantGrammar
