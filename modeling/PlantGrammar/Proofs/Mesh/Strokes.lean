import Mathlib.Data.List.Induction
import PlantGrammar.Proofs.Mesh.Arrays
import PlantGrammar.Proofs.Mesh.Emission

/-! # Any strokes leave a well-formed mesh

A stroke clears the mesh or appends a well-formed mesh of its own, also when it fails: a fan whose rim
has a malformed point leaves its hub and the points before that one, without a triangle.
-/
namespace PlantGrammar

theorem clampByte_lt (n : ℤ) : clampByte n < 256 := by
  unfold clampByte
  omega

theorem Color.isWord_of_pack {channels : List Channel} {color : ℤ}
    (h : Color.pack channels = .ok color) : IsWord color := by
  obtain ⟨levels, -, h⟩ := bind_eq_ok.mp h
  split at h
  · rename_i r g b a
    cases h
    have hr := clampByte_lt r
    have hg := clampByte_lt g
    have hb := clampByte_lt b
    have ha := clampByte_lt a
    unfold IsWord joinBytes
    omega
  · cases h

/-- A call on a mesh, with any arguments. -/
inductive Stroke where
  | clear
  | vertex (point : Coordinates) (depth : Float) (color : ℤ)
  | fan (center : Coordinates) (rim : List Coordinates) (depth : Float) (color : ℤ)
  | line (start : Coordinates) (startWidth : Float) (finish : Coordinates)
      (finishWidth depth : Float) (color : List Channel)
  | kite (start finish : Coordinates) (width ratio depth : Float) (color : List Channel)
  | box (center size : Coordinates) (rotation depth : Float) (color : List Channel)
  | disc (center : Coordinates) (radius : Float) (segments : ℤ) (depth : Float)
      (color : List Channel)
  | star (center : Coordinates) (outer inner : Float) (points : ℤ) (depth : Float)
      (color : List Channel)
deriving Repr

def Stroke.drawing : Stroke → Drawing Unit
  | clear => Drawing.clear
  | vertex point depth color => discard (Drawing.vertex point depth color)
  | fan center rim depth color => Drawing.fan center rim depth color
  | line start startWidth finish finishWidth depth color =>
    Drawing.line start startWidth finish finishWidth depth color
  | kite start finish width ratio depth color => Drawing.kite start finish width ratio depth color
  | box center size rotation depth color => Drawing.box center size rotation depth color
  | disc center radius segments depth color => Drawing.disc center radius segments depth color
  | star center outer inner points depth color => Drawing.star center outer inner points depth color

/-- The colors that come already packed are words. -/
def Stroke.WordColor : Stroke → Prop
  | vertex _ _ color | fan _ _ _ color => IsWord color
  | _ => True

/-- The mesh that a drawing leaves behind, also when it fails. -/
def Drawing.leaves (d : Drawing Unit) (m : Mesh) : Mesh :=
  match d m with
  | .ok _ n => n
  | .error _ n => n

def Mesh.ofStrokes (strokes : List Stroke) : Mesh :=
  strokes.foldl (fun m s => s.drawing.leaves m) .empty

/-- A well-formed mesh whose colors are words if `word` holds. -/
structure Piece (word : Prop) (n : Mesh) : Prop where
  wellFormed : n.WellFormed
  wordColors : word → n.WordColors

section
variable {word : Prop} {points : List Vec} {cs : List ℕ} {color : ℤ}

theorem piece_empty (word : Prop) : Piece word .empty :=
  ⟨Mesh.wellFormed_empty, fun _ => Mesh.wordColors_empty⟩

theorem Piece.append {word' : Prop} {m n : Mesh} (hm : Piece word m) (hn : Piece word' n) :
    Piece (word ∧ word') (m.append n) :=
  ⟨hm.wellFormed.append hn.wellFormed, fun h => (hm.wordColors h.1).append (hn.wordColors h.2)⟩

theorem Piece.mono {word' : Prop} {n : Mesh} (h : Piece word n) (hw : word' → word) :
    Piece word' n :=
  ⟨h.wellFormed, fun h' => h.wordColors (hw h')⟩

theorem piece_patch (h : 3 ∣ cs.length) (hlt : ∀ i ∈ cs, i < points.length)
    (hc : word → IsWord color) (depth : Float) : Piece word (.patch points depth color cs) := by
  refine ⟨⟨by simp [Mesh.patch], by simpa [Mesh.patch] using h, ?_⟩, ?_⟩
  · intro i hi
    obtain ⟨j, hj, rfl⟩ := List.mem_map.mp (List.mem_toArray.mp hi)
    have hv : (Mesh.patch points depth color cs).vertexCount = points.length := by
      simp [Mesh.patch, Mesh.vertexCount]
    rw [hv]
    exact ⟨Int.natCast_nonneg j, Int.ofNat_lt.mpr (hlt j hj)⟩
  · intro hw c hm
    obtain rfl := List.eq_of_mem_replicate (List.mem_toArray.mp hm)
    exact hc hw

theorem piece_points (points : List Vec) (hc : word → IsWord color) (depth : Float) :
    Piece word (.patch points depth color []) :=
  piece_patch ⟨0, rfl⟩ (by simp) hc depth

theorem piece_halves (h : points.length = 4) (hc : word → IsWord color) (depth : Float) :
    Piece word (.patch points depth color Mesh.halves) := by
  refine piece_patch ⟨2, rfl⟩ ?_ hc depth
  rw [h]
  decide

/-- The last side of a rim ends at its first point, and a rim without points has no side. -/
theorem piece_fan (hub : Vec) (rim : List Vec) (hc : word → IsWord color) (depth : Float) :
    Piece word (.fan hub rim depth color) := by
  refine piece_patch ⟨rim.length, Mesh.length_spokes rim.length⟩ ?_ hc depth
  intro i hi
  obtain ⟨k, hk, hi⟩ := List.mem_flatMap.mp hi
  have hk : k < rim.length := List.mem_range.mp hk
  have hnext : (k + 1) % rim.length < rim.length := Nat.mod_lt _ (by omega)
  simp only [List.mem_cons, List.not_mem_nil, or_false] at hi
  rw [List.length_cons]
  omega

end

namespace Drawing
variable {n : Mesh} {depth : Float} {color : ℤ} {center : Coordinates} {hub : Vec}
  {rim : List Coordinates} {channels : List Channel}

theorem piece_lineShape {start finish : Coordinates} {startWidth finishWidth : Float}
    (h : lineShape start startWidth finish finishWidth depth channels = .ok n) : Piece True n := by
  obtain ⟨p, q, -, -, hcase⟩ := lineShape_eq_ok h
  split at hcase
  · obtain ⟨packed, hp, rfl⟩ := hcase
    exact piece_halves rfl (fun _ => Color.isWord_of_pack hp) depth
  · subst hcase
    exact piece_empty True

theorem piece_kiteShape {start finish : Coordinates} {width ratio : Float}
    (h : kiteShape start finish width ratio depth channels = .ok n) : Piece True n := by
  obtain ⟨p, q, -, -, hcase⟩ := kiteShape_eq_ok h
  split at hcase
  · obtain ⟨packed, hp, rfl⟩ := hcase
    exact piece_halves rfl (fun _ => Color.isWord_of_pack hp) depth
  · subst hcase
    exact piece_empty True

theorem piece_boxShape {size : Coordinates} {rotation : Float}
    (h : boxShape center size rotation depth channels = .ok n) : Piece True n := by
  obtain ⟨p, extent, packed, -, -, hp, rfl⟩ := boxShape_eq_ok h
  exact piece_halves rfl (fun _ => Color.isWord_of_pack hp) depth

theorem piece_discShape {radius : Float} {segments : ℤ}
    (h : discShape center radius segments depth channels = .ok n) : Piece True n := by
  obtain ⟨p, packed, count, -, -, hp, rfl⟩ := discShape_eq_ok h
  exact piece_fan p _ (fun _ => Color.isWord_of_pack hp) depth

theorem piece_starShape {outer inner : Float} {points : ℤ}
    (h : starShape center outer inner points depth channels = .ok n) : Piece True n := by
  obtain ⟨p, packed, count, -, -, hp, rfl⟩ := starShape_eq_ok h
  exact piece_fan p _ (fun _ => Color.isWord_of_pack hp) depth

theorem leaves_of_ok {d : Drawing Unit} {m : Mesh} (h : d m = .ok () n) : d.leaves m = n := by
  rw [leaves, h]

theorem leaves_of_error {d : Drawing Unit} {m : Mesh} {fault : Fault} (h : d m = .error fault n) :
    d.leaves m = n := by
  rw [leaves, h]

theorem vertex_eq {point : Coordinates} {p : Vec} (h : Vec.ofPoint point = .ok p) (depth : Float)
    (color : ℤ) : vertex point depth color = vertex p.coordinates depth color := by
  unfold vertex
  rw [h]
  rfl

/-- A rim of well-formed points is drawn as the vectors that they stand for. -/
theorem forM_vertex_of_ok {vs : List Vec} (h : rim.mapM Vec.ofPoint = .ok vs) (depth : Float)
    (color : ℤ) : rim.length = vs.length ∧
      (rim.forM fun point => discard (vertex point depth color)) =
        (vs.map Vec.coordinates).forM fun point => discard (vertex point depth color) := by
  induction rim generalizing vs with
  | nil =>
    cases h
    exact ⟨rfl, rfl⟩
  | cons point rim ih =>
    rw [List.mapM_cons] at h
    obtain ⟨p, hp, h⟩ := bind_eq_ok.mp h
    obtain ⟨ps, hps, h⟩ := bind_eq_ok.mp h
    cases h
    obtain ⟨hlen, hforM⟩ := ih hps
    refine ⟨by rw [List.length_cons, List.length_cons, hlen], ?_⟩
    rw [List.map_cons]
    change (discard (vertex point depth color) >>= fun _ => rim.forM _ : Drawing Unit) =
      (discard (vertex p.coordinates depth color) >>= fun _ => List.forM _ _)
    rw [hforM, vertex_eq hp]

/-- The points before the first malformed one stay. -/
theorem forM_vertex_of_error {fault : Fault} (h : rim.mapM Vec.ofPoint = .error fault) (m : Mesh)
    (ps : List Vec) (depth : Float) (color : ℤ) :
    ∃ vs, (rim.forM fun point => discard (vertex point depth color))
      (m.append (.patch ps depth color [])) =
        .error fault (m.append (.patch (ps ++ vs) depth color [])) := by
  induction rim generalizing ps with
  | nil => cases h
  | cons point rim ih =>
    rw [List.mapM_cons] at h
    cases hp : Vec.ofPoint point with
    | error other =>
      rw [hp] at h
      cases h
      refine ⟨[], ?_⟩
      rw [List.append_nil]
      refine bind_of_error (x := discard (vertex point depth color)) ?_ _
      exact bind_of_error (vertex_of_error hp) _
    | ok p =>
      rw [hp] at h
      cases hps : rim.mapM Vec.ofPoint with
      | ok vs =>
        rw [hps] at h
        cases h
      | error other =>
        rw [hps] at h
        cases h
        obtain ⟨vs, hvs⟩ := ih hps (ps ++ [p])
        refine ⟨p :: vs, ?_⟩
        have hv := discard_of_ok (vertex_append_patch m ps depth color [] hp)
        refine (bind_of_ok hv _).trans ?_
        rw [List.append_assoc] at hvs
        exact hvs

theorem fan_of_ok {vs : List Vec} (hc : Vec.ofPoint center = .ok hub)
    (hr : rim.mapM Vec.ofPoint = .ok vs) (depth : Float) (color : ℤ) (m : Mesh) :
    fan center rim depth color m = .ok () (m.append (.fan hub vs depth color)) := by
  obtain ⟨hlen, hforM⟩ := forM_vertex_of_ok hr depth color
  have hsame : fan center rim depth color = fan center (vs.map Vec.coordinates) depth color := by
    unfold fan
    rw [hforM, hlen, List.length_map]
  rw [hsame, fan_eq hc]

theorem fan_of_error {fault : Fault} (hc : Vec.ofPoint center = .ok hub)
    (hr : rim.mapM Vec.ofPoint = .error fault) (depth : Float) (color : ℤ) (m : Mesh) :
    ∃ vs, fan center rim depth color m =
      .error fault (m.append (.patch (hub :: vs) depth color [])) := by
  have hhub : vertex center depth color m =
      .ok (m.vertexCount + 0) (m.append (.patch [hub] depth color [])) := by
    conv_lhs => rw [← append_patch_nil m depth color]
    exact vertex_append_patch _ _ _ _ _ hc
  obtain ⟨vs, hvs⟩ := forM_vertex_of_error hr m [hub] depth color
  refine ⟨vs, ?_⟩
  unfold fan
  rw [bind_of_ok hhub, bind_of_ok (x := get) rfl]
  exact bind_of_error hvs _

/-- A fan with a hub appends all its points and triangles, or some of the points alone. -/
theorem fan_leaves (hc : Vec.ofPoint center = .ok hub) (rim : List Coordinates) (depth : Float)
    (color : ℤ) (m : Mesh) : ∃ vs, (fan center rim depth color).leaves m =
      m.append (.fan hub vs depth color) ∨ (fan center rim depth color).leaves m =
        m.append (.patch (hub :: vs) depth color []) := by
  cases hr : rim.mapM Vec.ofPoint with
  | ok vs => exact ⟨vs, .inl (leaves_of_ok (fan_of_ok hc hr depth color m))⟩
  | error fault =>
    obtain ⟨vs, hvs⟩ := fan_of_error hc hr depth color m
    exact ⟨vs, .inr (leaves_of_error hvs)⟩

theorem leaves_of_emit {d : Drawing Unit} {shape : Except Fault Mesh} (hd : d = emit shape)
    (h : ∀ n, shape = .ok n → Piece True n) (word : Prop) (m : Mesh) :
    ∃ n, d.leaves m = m.append n ∧ Piece word n := by
  subst hd
  cases shape with
  | error fault =>
    have he : emit (.error fault) m = .error fault (m.append .empty) := by
      rw [emit, m.append_empty]
    exact ⟨.empty, leaves_of_error he, piece_empty word⟩
  | ok n =>
    have hn : emit (.ok n) m = .ok () (m.append n) := rfl
    exact ⟨n, leaves_of_ok hn, (h n rfl).mono fun _ => trivial⟩

theorem leaves_vertex (point : Coordinates) (depth : Float) (color : ℤ) (m : Mesh) :
    ∃ n, leaves (discard (vertex point depth color)) m = m.append n ∧ Piece (IsWord color) n := by
  cases hp : Vec.ofPoint point with
  | error fault =>
    have hv : discard (vertex point depth color) m = .error fault m :=
      bind_of_error (vertex_of_error hp) _
    exact ⟨.empty, by rw [leaves_of_error hv, m.append_empty], piece_empty _⟩
  | ok p =>
    have hv := discard_of_ok (vertex_append_patch m [] depth color [] hp)
    rw [append_patch_nil] at hv
    exact ⟨.patch [p] depth color [], leaves_of_ok hv, piece_points [p] id depth⟩

theorem leaves_fan (center : Coordinates) (rim : List Coordinates) (depth : Float) (color : ℤ)
    (m : Mesh) : ∃ n, leaves (fan center rim depth color) m = m.append n ∧
      Piece (IsWord color) n := by
  cases hc : Vec.ofPoint center with
  | error fault =>
    have hf : fan center rim depth color m = .error fault m := bind_of_error (vertex_of_error hc) _
    exact ⟨.empty, by rw [leaves_of_error hf, m.append_empty], piece_empty _⟩
  | ok hub =>
    obtain ⟨vs, h | h⟩ := fan_leaves hc rim depth color m
    · exact ⟨_, h, piece_fan hub vs id depth⟩
    · exact ⟨_, h, piece_points (hub :: vs) id depth⟩

end Drawing

/-- A stroke clears the mesh or appends a piece to it. -/
theorem Stroke.leaves_eq (s : Stroke) (m : Mesh) : s.drawing.leaves m = .empty ∨
    ∃ n, s.drawing.leaves m = m.append n ∧ Piece s.WordColor n := by
  cases s with
  | clear => exact .inl rfl
  | vertex point depth color => exact .inr (Drawing.leaves_vertex point depth color m)
  | fan center rim depth color => exact .inr (Drawing.leaves_fan center rim depth color m)
  | line start startWidth finish finishWidth depth color =>
    exact .inr (Drawing.leaves_of_emit (Drawing.line_eq_emit ..)
      (fun _ => Drawing.piece_lineShape) _ m)
  | kite start finish width ratio depth color =>
    exact .inr (Drawing.leaves_of_emit (Drawing.kite_eq_emit ..)
      (fun _ => Drawing.piece_kiteShape) _ m)
  | box center size rotation depth color =>
    exact .inr (Drawing.leaves_of_emit (Drawing.box_eq_emit ..)
      (fun _ => Drawing.piece_boxShape) _ m)
  | disc center radius segments depth color =>
    exact .inr (Drawing.leaves_of_emit (Drawing.disc_eq_emit ..)
      (fun _ => Drawing.piece_discShape) _ m)
  | star center outer inner points depth color =>
    exact .inr (Drawing.leaves_of_emit (Drawing.star_eq_emit ..)
      (fun _ => Drawing.piece_starShape) _ m)

namespace Mesh

theorem ofStrokes_append_singleton (strokes : List Stroke) (s : Stroke) :
    ofStrokes (strokes ++ [s]) = s.drawing.leaves (ofStrokes strokes) := by
  simp [ofStrokes]

theorem piece_ofStrokes (strokes : List Stroke) :
    Piece (∀ s ∈ strokes, s.WordColor) (ofStrokes strokes) := by
  induction strokes using List.reverseRecOn with
  | nil => exact piece_empty _
  | append_singleton strokes s ih =>
    rw [ofStrokes_append_singleton]
    rcases s.leaves_eq (ofStrokes strokes) with h | ⟨n, h, hn⟩
    · rw [h]
      exact piece_empty _
    · rw [h]
      refine (ih.append hn).mono fun hw => ⟨fun r hr => ?_, hw s (by simp)⟩
      exact hw r (List.mem_append_left _ hr)

/-- Whatever is drawn, and however it fails, the mesh is well-formed. If the colors that come packed
are words and the vertices are not too many, it can be drawn. -/
theorem wellFormed_ofStrokes (strokes : List Stroke) : (ofStrokes strokes).WellFormed ∧
    ((∀ s ∈ strokes, s.WordColor) → (ofStrokes strokes).vertexCount < 0x100000000 →
      ∃ a, (ofStrokes strokes).Gathered a) := by
  have h := piece_ofStrokes strokes
  exact ⟨h.wellFormed, fun hw hv => h.wellFormed.gathered (h.wordColors hw) hv⟩

/-- The first fan fails at its second point and leaves two vertices, the disc fails at once, and the
second fan is closed over a single point. -/
theorem wellFormed_ofStrokes_after_faults : ∃ strokes : List Stroke,
    strokes = [.clear, .fan (.items [0, 0]) [.items [1, 0], .bare 3] 0 5,
      .disc (.items [0, 0]) 1 (-3) 0 [], .fan (.items [2, 0, 7]) [.items [1, 0]] 1 0xff8000ff] ∧
    (∀ s ∈ strokes, s.WordColor) ∧ (ofStrokes strokes).vertexCount < 0x100000000 ∧
    (ofStrokes strokes).indices = #[2, 3, 3] ∧ (ofStrokes strokes).WellFormed ∧
    ∃ a, (ofStrokes strokes).Gathered a := by
  have hw : ∀ s ∈ [Stroke.clear, .fan (.items [0, 0]) [.items [1, 0], .bare 3] 0 5,
      .disc (.items [0, 0]) 1 (-3) 0 [], .fan (.items [2, 0, 7]) [.items [1, 0]] 1 0xff8000ff],
      s.WordColor := by
    simp [Stroke.WordColor, IsWord]
  have hv : (ofStrokes [.clear, .fan (.items [0, 0]) [.items [1, 0], .bare 3] 0 5,
      .disc (.items [0, 0]) 1 (-3) 0 [],
      .fan (.items [2, 0, 7]) [.items [1, 0]] 1 0xff8000ff]).vertexCount = 4 := rfl
  have h := wellFormed_ofStrokes [.clear, .fan (.items [0, 0]) [.items [1, 0], .bare 3] 0 5,
    .disc (.items [0, 0]) 1 (-3) 0 [], .fan (.items [2, 0, 7]) [.items [1, 0]] 1 0xff8000ff]
  exact ⟨_, rfl, hw, by rw [hv]; decide, rfl, h.1, h.2 hw (by rw [hv]; decide)⟩

end Mesh
end PlantGrammar
