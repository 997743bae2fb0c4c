import Mathlib.Data.Fintype.Defs
import PlantGrammar.Proofs.Mesh.Depths
import PlantGrammar.Proofs.Scene.Loading
import PlantGrammar.Proofs.Scene.Sprouts

/-! # Layers of a plant

Each part of a plant has a depth of its own, so the triangles of a mesh are drawn part by part. With
the depths that settings have by default the stars of the flowers come right after the branches, and
the discs among the leaves: leaves hide the stars behind them.
-/
namespace PlantGrammar
open Number Mesh

inductive Layer where
  | branch
  | leaf
  | star
  | disc
deriving Repr, DecidableEq, Inhabited

namespace Layer

instance : Fintype Layer where
  elems := {branch, leaf, star, disc}
  complete l := by cases l <;> decide

def depth (settings : Settings) : Layer → Float
  | branch => settings.branchDepth
  | leaf => settings.leafDepth
  | star => settings.flowerOuterDepth
  | disc => settings.flowerInnerDepth

def defaultDepth : Layer → Float
  | branch => 0
  | leaf => -0.2
  | star => -0.1
  | disc => -0.2

/-- The turn of a layer when all depths are default ones. -/
def turn : Layer → ℕ
  | branch => 0
  | star => 1
  | leaf => 2
  | disc => 2

theorem before_of_turn_lt {a b : Layer} (h : a.turn < b.turn) :
    drawnBefore (depthRank (flatDepth b.defaultDepth)) (depthRank (flatDepth a.defaultDepth)) =
      false := by
  revert h
  cases a <;> cases b <;> decide +kernel

theorem beq_of_turn_eq {a b : Layer} (h : a.turn = b.turn) :
    (flatDepth a.defaultDepth == flatDepth b.defaultDepth) = true := by
  revert h
  cases a <;> cases b <;> decide +kernel

end Layer

/-- The layer of each triangle of a sprout. -/
def Sprout.layers (settings : Settings) (sprout : Sprout) (shape : Mesh) : List Layer :=
  match sprout.organ with
  | .branch => List.replicate shape.triangleCount .branch
  | .leaf => List.replicate shape.triangleCount .leaf
  | .flower =>
    List.replicate (2 * settings.starPoints.toNat) .star ++
      List.replicate settings.circleSegments.toNat .disc

namespace Sprout
variable {settings : Settings} {sprout : Sprout} {shape : Mesh}

theorem star_mem_layers (hpoints : 0 < settings.starPoints) :
    .star ∈ sprout.layers settings shape ↔ .flower = sprout.organ := by
  obtain ⟨organ, stem⟩ := sprout
  unfold layers
  cases organ with
  | branch => simp
  | leaf => simp
  | flower => simp; omega

theorem flower_of_disc_mem_layers (h : .disc ∈ sprout.layers settings shape) :
    .flower = sprout.organ := by
  obtain ⟨organ, stem⟩ := sprout
  cases organ with
  | branch => cases List.eq_of_mem_replicate h
  | leaf => cases List.eq_of_mem_replicate h
  | flower => rfl

end Sprout

namespace Scene
variable {s grown : Scene} {notice : Notice} {sprout : Sprout} {sprouts : List Sprout} {shape : Mesh}
  {shapes : List Mesh} {trace : Trace}

theorem Bears.liesAt (h : s.Bears sprout shape) :
    shape.LiesAt ((sprout.layers s.settings shape).map (Layer.depth s.settings)) := by
  obtain ⟨organ, stem⟩ := sprout
  obtain ⟨rotation, hgrows⟩ := h
  unfold Sprout.layers
  cases hgrows with
  | quad _ _ _ hcolor =>
    dsimp only
    rw [(counts_quad ..).triangleCount_eq, List.map_replicate]
    exact liesAt_halves rfl (Color.isWord_of_pack hcolor)
  | noQuad => exact liesAt_empty
  | box _ _ _ hcolor =>
    dsimp only
    rw [(counts_box ..).triangleCount_eq, List.map_replicate]
    exact liesAt_halves rfl (Color.isWord_of_pack hcolor)
  | kite _ _ _ _ _ _ hcolor =>
    dsimp only
    rw [(counts_kite ..).triangleCount_eq, List.map_replicate]
    exact liesAt_halves rfl (Color.isWord_of_pack hcolor)
  | noKite => exact liesAt_empty
  | shortKite => exact liesAt_empty
  | flower _ hpoints hsegments houter hinner =>
    dsimp only
    rw [hpoints, hsegments, List.map_append, List.map_replicate, List.map_replicate]
    exact (liesAt_star _ _ _ _ _ (Color.isWord_of_pack houter)).append
      (liesAt_disc _ _ _ _ (Color.isWord_of_pack hinner))

theorem Bears.leaf_mem_layers (hbox : s.look.leafType = .box) (h : s.Bears sprout shape) :
    .leaf ∈ sprout.layers s.settings shape ↔ .leaf = sprout.organ := by
  obtain ⟨organ, stem⟩ := sprout
  obtain ⟨rotation, hgrows⟩ := h
  unfold Sprout.layers
  cases hgrows with
  | box _ _ _ _ => simp [(counts_box ..).triangleCount_eq]
  | kite hkite => cases hbox.symm.trans hkite
  | noKite hkite => cases hbox.symm.trans hkite
  | shortKite hkite => cases hbox.symm.trans hkite
  | quad _ _ _ _ => simp
  | noQuad _ _ _ => simp
  | flower _ _ _ _ _ => simp

/-- The layer of each triangle of the mesh of some sprouts. -/
def layers (s : Scene) (sprouts : List Sprout) (shapes : List Mesh) : List Layer :=
  (sprouts.zipWith (Sprout.layers s.settings) shapes).flatten

theorem liesAt_layers (h : List.Forall₂ s.Bears sprouts shapes) :
    (concat shapes).LiesAt ((s.layers sprouts shapes).map (Layer.depth s.settings)) := by
  induction h with
  | nil => exact liesAt_empty
  | cons hbears _ ih =>
    rw [concat_cons, layers, List.zipWith_cons_cons, List.flatten_cons, List.map_append]
    exact hbears.liesAt.append ih

end Scene

section
variable {m : Mesh} {ls : List Layer} {order : List ℕ} {drawn : List Facet}

/-- The layer of a triangle; there is no other than those of the list. -/
def layerAt (ls : List Layer) (t : ℕ) : Layer := ls.getD t .branch

def layerSites (ls : List Layer) (p : Layer → Bool) : List ℕ :=
  (List.range ls.length).filter fun t => p (layerAt ls t)

/-- Triangles by the turns of their layers, and by their numbers where the turns are equal. -/
def Before (ls : List Layer) (t u : ℕ) : Prop :=
  (layerAt ls t).turn < (layerAt ls u).turn ∨ (layerAt ls t).turn = (layerAt ls u).turn ∧ t < u

theorem before_asymm {t u : ℕ} (h : Before ls t u) : ¬ Before ls u t := by
  unfold Before at h ⊢
  omega

theorem meanDepth_of_mem_zip (hm : m.LiesAt (ls.map Layer.defaultDepth)) (h : m.DrawnInOrder order drawn)
    {x : ℕ × Facet} (hx : x ∈ order.zip drawn) :
    meanDepth x.2.corners = flatDepth (layerAt ls x.1).defaultDepth := by
  have hfacet : m.FacetAt x.1 x.2 := (List.forall₂_iff_zip.mp h.own).2 hx
  have ht : x.1 < ls.length := by
    rw [← List.length_map Layer.defaultDepth, ← hm.triangleCount_eq, ← List.mem_range, ← h.perm.mem_iff]
    exact (List.of_mem_zip hx).1
  refine hm.meanDepth_eq hfacet ?_
  rw [List.getElem?_map, List.getElem?_eq_getElem ht, layerAt, List.getD_eq_getElem?_getD,
    List.getElem?_eq_getElem ht]
  rfl

/-- Along the drawn order the turns of the layers never go back, and the numbers go up within a turn. -/
theorem pairwise_before (hm : m.LiesAt (ls.map Layer.defaultDepth)) (h : m.DrawnInOrder order drawn) :
    order.Pairwise (Before ls) := by
  have hlength := h.own.length_eq
  have hsorted : (order.zip drawn).Pairwise fun x y =>
      (meanDepth y.2.corners).isNaN = true ∨ meanDepth y.2.corners ≤ meanDepth x.2.corners := by
    have hs := h.sorted
    rw [← List.map_snd_zip hlength.ge, List.pairwise_map] at hs
    exact hs
  rw [← List.map_fst_zip hlength.le, List.pairwise_map]
  refine (hsorted.and h.stable).imp_of_mem ?_
  rintro x y hx hy ⟨hxy, hstable⟩
  rw [meanDepth_of_mem_zip hm h hx, meanDepth_of_mem_zip hm h hy] at hxy hstable
  rcases Nat.lt_trichotomy (layerAt ls x.1).turn (layerAt ls y.1).turn with hturn | hturn | hturn
  · exact .inl hturn
  · exact .inr ⟨hturn, hstable (.inl (Layer.beq_of_turn_eq hturn))⟩
  · rw [← drawnBefore_depthRank, Layer.before_of_turn_lt hturn] at hxy
    cases hxy

theorem pairwise_layerSites (ls : List Layer) {p : Layer → Bool} {n : ℕ}
    (hp : ∀ l, p l = true → l.turn = n) : (layerSites ls p).Pairwise (Before ls) := by
  refine (List.pairwise_lt_range.filter _).imp_of_mem ?_
  intro t u ht hu htu
  have ht' := hp _ (List.mem_filter.mp ht).2
  have hu' := hp _ (List.mem_filter.mp hu).2
  exact .inr ⟨ht'.trans hu'.symm, htu⟩

theorem before_of_mem_layerSites {p q : Layer → Bool} {t u : ℕ} (ht : t ∈ layerSites ls p)
    (hu : u ∈ layerSites ls q) (h : ∀ a b, p a = true → q b = true → a.turn < b.turn) : Before ls t u :=
  .inl (h _ _ (List.mem_filter.mp ht).2 (List.mem_filter.mp hu).2)

/-- The triangles of all layers by turns. -/
def turnSites (ls : List Layer) : List ℕ :=
  layerSites ls (· = .branch) ++
    (layerSites ls (· = .star) ++ layerSites ls fun l => l = .leaf ∨ l = .disc)

theorem perm_turnSites (ls : List Layer) : (turnSites ls).Perm (List.range ls.length) := by
  unfold turnSites layerSites
  refine List.Perm.trans (List.Perm.append_left _ ?_)
    (List.filter_append_perm (fun t => layerAt ls t = .branch) _)
  refine List.Perm.trans ?_ (List.filter_append_perm (fun t => layerAt ls t = .star) _)
  rw [List.filter_filter, List.filter_filter]
  refine List.Perm.append (.of_eq (List.filter_congr ?_)) (.of_eq (List.filter_congr ?_))
  · intro t _
    cases layerAt ls t <;> decide
  · intro t _
    cases layerAt ls t <;> decide

theorem pairwise_turnSites (ls : List Layer) : (turnSites ls).Pairwise (Before ls) := by
  unfold turnSites
  rw [List.pairwise_append, List.pairwise_append]
  refine ⟨pairwise_layerSites ls (n := 0) (by decide), ⟨pairwise_layerSites ls (n := 1) (by decide),
    pairwise_layerSites ls (n := 2) (by decide), ?_⟩, ?_⟩
  · intro t ht u hu
    exact before_of_mem_layerSites ht hu (by decide)
  · intro t ht u hu
    rcases List.mem_append.mp hu with hu | hu
    · exact before_of_mem_layerSites ht hu (by decide)
    · exact before_of_mem_layerSites ht hu (by decide)

/-- First come the branches, then the stars, then leaves and discs as they are in the mesh. -/
theorem order_eq_turnSites (hm : m.LiesAt (ls.map Layer.defaultDepth))
    (h : m.DrawnInOrder order drawn) : order = turnSites ls := by
  have hcount : m.triangleCount = ls.length := by
    rw [hm.triangleCount_eq, List.length_map]
  have hperm := h.perm
  rw [hcount] at hperm
  refine List.Perm.eq_of_pairwise ?_ (pairwise_before hm h) (pairwise_turnSites ls)
    (hperm.trans (perm_turnSites ls).symm)
  intro t u _ _ htu hut
  exact absurd hut (before_asymm htu)

theorem map_layerAt_range (ls : List Layer) : (List.range ls.length).map (layerAt ls) = ls := by
  refine List.ext_getElem (by simp) ?_
  intro t _ ht
  rw [List.getElem_map, List.getElem_range, layerAt, List.getD_eq_getElem?_getD,
    List.getElem?_eq_getElem ht]
  rfl

theorem map_layerAt_layerSites (ls : List Layer) (p : Layer → Bool) :
    (layerSites ls p).map (layerAt ls) = ls.filter p := by
  rw [layerSites]
  change ((List.range ls.length).filter (p ∘ layerAt ls)).map (layerAt ls) = _
  rw [← List.filter_map, map_layerAt_range]

theorem map_layerAt_turnSites (ls : List Layer) : (turnSites ls).map (layerAt ls) =
    ls.filter (· = .branch) ++ (ls.filter (· = .star) ++ ls.filter fun l => l = .leaf ∨ l = .disc) := by
  rw [turnSites, List.map_append, List.map_append, map_layerAt_layerSites, map_layerAt_layerSites,
    map_layerAt_layerSites]

/-- No leaf is drawn before a branch, and no part of a flower before a leaf. -/
structure Layered (drawn : List Layer) : Prop where
  leaves : drawn.Pairwise fun a b => ¬ (a = .leaf ∧ b = .branch)
  flowers : drawn.Pairwise fun a b => ¬ ((a = .star ∨ a = .disc) ∧ b = .leaf)

/-- By turns the branches are behind all others. -/
theorem leaves_turnSites (ls : List Layer) :
    ((turnSites ls).map (layerAt ls)).Pairwise fun a b => ¬ (a = .leaf ∧ b = .branch) := by
  rw [map_layerAt_turnSites, List.pairwise_append]
  refine ⟨List.pairwise_of_forall_mem_list ?_, List.pairwise_of_forall_mem_list ?_, ?_⟩
  · rintro a ha b - ⟨rfl, -⟩
    cases of_decide_eq_true (List.mem_filter.mp ha).2
  · rintro a - b hb ⟨-, rfl⟩
    rcases List.mem_append.mp hb with hb | hb
    · cases of_decide_eq_true (List.mem_filter.mp hb).2
    · rcases of_decide_eq_true (List.mem_filter.mp hb).2 with h | h <;> cases h
  · rintro a ha b - ⟨rfl, -⟩
    cases of_decide_eq_true (List.mem_filter.mp ha).2

/-- By turns a leaf is behind every flower only where there are no leaves or no flowers. -/
theorem layered_turnSites (h : .disc ∈ ls → .star ∈ ls) :
    Layered ((turnSites ls).map (layerAt ls)) ↔ .leaf ∉ ls ∨ .star ∉ ls := by
  constructor
  · rintro ⟨-, hflowers⟩
    rw [map_layerAt_turnSites] at hflowers
    by_contra hboth
    rw [not_or, not_not, not_not] at hboth
    have hstars := (List.pairwise_append.mp (List.pairwise_append.mp hflowers).2.1).2.2
    refine hstars .star ?_ .leaf ?_ ⟨.inl rfl, rfl⟩
    · exact List.mem_filter.mpr ⟨hboth.2, rfl⟩
    · exact List.mem_filter.mpr ⟨hboth.1, rfl⟩
  · intro hone
    have hmem : ∀ l ∈ (turnSites ls).map (layerAt ls), l ∈ ls := by
      intro l hl
      rwa [((perm_turnSites ls).map _).mem_iff, map_layerAt_range] at hl
    refine ⟨leaves_turnSites ls, List.pairwise_of_forall_mem_list ?_⟩
    rintro a ha b hb ⟨rfl | rfl, rfl⟩
    · exact hone.elim (absurd (hmem _ hb)) (absurd (hmem _ ha))
    · exact hone.elim (absurd (hmem _ hb)) (absurd (h (hmem _ ha)))

end

/-- The depths of the parts are those that settings have by default. -/
structure Settings.DefaultDepths (settings : Settings) : Prop where
  branch : settings.branchDepth = 0
  leaf : settings.leafDepth = -0.2
  flowerOuter : settings.flowerOuterDepth = -0.1
  flowerInner : settings.flowerInnerDepth = -0.2

theorem Settings.DefaultDepths.depth_eq {settings : Settings} (h : settings.DefaultDepths) :
    Layer.depth settings = Layer.defaultDepth := by
  funext l
  cases l with
  | branch => exact h.branch
  | leaf => exact h.leaf
  | star => exact h.flowerOuter
  | disc => exact h.flowerInner

namespace Scene
variable {s grown : Scene} {notice : Notice} {sprouts : List Sprout} {shapes : List Mesh}
  {trace : Trace}

theorem layers_cons (s : Scene) (sprout : Sprout) (sprouts : List Sprout) (shape : Mesh)
    (shapes : List Mesh) : s.layers (sprout :: sprouts) (shape :: shapes) =
      sprout.layers s.settings shape ++ s.layers sprouts shapes := rfl

theorem mem_layers {l : Layer} {organ : Organ} (hone : ∀ sprout shape, s.Bears sprout shape →
    (l ∈ sprout.layers s.settings shape ↔ organ = sprout.organ))
    (h : List.Forall₂ s.Bears sprouts shapes) :
    l ∈ s.layers sprouts shapes ↔ organ ∈ sprouts.map Sprout.organ := by
  induction h with
  | nil => exact iff_of_false List.not_mem_nil List.not_mem_nil
  | cons hbears _ ih =>
    rw [layers_cons, List.mem_append, List.map_cons, List.mem_cons, ih, hone _ _ hbears]

/-- Boxes are never empty. -/
theorem leaf_mem_layers (hbox : s.look.leafType = .box) (h : List.Forall₂ s.Bears sprouts shapes) :
    .leaf ∈ s.layers sprouts shapes ↔ .leaf ∈ sprouts.map Sprout.organ :=
  mem_layers (fun _ _ hbears => hbears.leaf_mem_layers hbox) h

theorem star_mem_layers (hpoints : 0 < s.settings.starPoints)
    (h : List.Forall₂ s.Bears sprouts shapes) :
    .star ∈ s.layers sprouts shapes ↔ .flower ∈ sprouts.map Sprout.organ :=
  mem_layers (fun _ _ _ => Sprout.star_mem_layers hpoints) h

theorem flower_of_disc_mem_layers (hlayers : .disc ∈ s.layers sprouts shapes)
    (h : List.Forall₂ s.Bears sprouts shapes) : .flower ∈ sprouts.map Sprout.organ := by
  induction h with
  | nil => cases hlayers
  | cons _ _ ih =>
    rw [layers_cons, List.mem_append] at hlayers
    rw [List.map_cons, List.mem_cons]
    exact hlayers.imp Sprout.flower_of_disc_mem_layers ih

/-- How a mesh is drawn that has triangles of some layers. By turns come the branches, the stars, and
leaves and discs as they are in the mesh. -/
structure DrawnByTurns (mesh : Mesh) (layers : List Layer) (order : List ℕ) (drawn : List Facet) :
    Prop where
  collected : mesh.collection? = .ok (if drawn.isEmpty then none else some drawn)
  inOrder : mesh.DrawnInOrder order drawn
  order_eq : order = turnSites layers

theorem exists_drawnByTurns (h : List.Forall₂ s.Bears sprouts shapes)
    (hdepths : s.settings.DefaultDepths) (hfits : (Mesh.concat shapes).vertexCount < 0x100000000) :
    ∃ order drawn, DrawnByTurns (.concat shapes) (s.layers sprouts shapes) order drawn := by
  have hlies := liesAt_layers h
  rw [hdepths.depth_eq] at hlies
  obtain ⟨order, drawn, hfacets, horder⟩ :=
    exists_drawnInOrder hlies.wellFormed hlies.wordColors (hlies.wellFormed.isWord hfits)
  exact ⟨order, drawn, collection?_of_facets hfacets, horder, order_eq_turnSites hlies horder⟩

theorem DrawnByTurns.layered_iff {mesh : Mesh} {order : List ℕ} {drawn : List Facet}
    (hdrawn : DrawnByTurns mesh (s.layers sprouts shapes) order drawn)
    (hpoints : 0 < s.settings.starPoints) (h : List.Forall₂ s.Bears sprouts shapes) :
    Layered (order.map (layerAt (s.layers sprouts shapes))) ↔
      .leaf ∉ s.layers sprouts shapes ∨ .flower ∉ sprouts.map Sprout.organ := by
  rw [hdrawn.order_eq, ← star_mem_layers hpoints h]
  refine layered_turnSites fun hdisc => ?_
  rw [star_mem_layers hpoints h]
  exact flower_of_disc_mem_layers hdisc h

/-- With default depths, the mesh of a scene that grows is drawn by turns: branches, stars, and then
leaves and discs. So leaves are drawn behind flowers only where the plant has no leaves or no flowers. -/
theorem drawn_by_turns (hs : s.Reachable) (h : grow s = .ok notice grown)
    (hdepths : s.settings.DefaultDepths) (hfits : grown.canvas.mesh.vertexCount < 0x100000000) :
    ∃ trace shapes order drawn, s.Draws grown trace shapes ∧
      DrawnByTurns grown.canvas.mesh (s.layers trace.sprouts shapes) order drawn ∧
      (0 < s.settings.starPoints →
        (Layered (order.map (layerAt (s.layers trace.sprouts shapes))) ↔
          .leaf ∉ s.layers trace.sprouts shapes ∨
          Organ.flower.symbol ∉ symbolsOf grown.strand.symbols)) := by
  obtain ⟨trace, shapes, hdraws⟩ := exists_draws h
  rw [hdraws.mesh_eq] at hfits
  obtain ⟨order, drawn, hdrawn⟩ := exists_drawnByTurns hdraws.born hdepths hfits
  refine ⟨trace, shapes, order, drawn, hdraws, hdraws.mesh_eq ▸ hdrawn, ?_⟩
  intro hpoints
  rw [hdrawn.layered_iff hpoints hdraws.born, hdraws.mem_organs hs]

theorem exists_counted_of_noticeAfter {settings : Settings} {acts : List Act}
    {symbols vertices triangles : ℕ} (hacts : ∀ settings', .setSettings settings' ∉ acts)
    (h : noticeAfter settings acts = some (.generated symbols vertices triangles)) :
    ∃ origin loaded s grown, new settings = .ok (origin, loaded) ∧ acts.foldl act origin = s ∧
      grow s = .ok (.generated symbols vertices triangles) grown ∧ s.settings = settings ∧
      grown.canvas.mesh.vertexCount = vertices := by
  obtain ⟨origin, loaded, s, grown, hnew, hs, hgrow⟩ := exists_grown_of_noticeAfter h
  have hsettings : s.settings = settings := by
    rw [← hs, settings_foldl_act hacts, settings_new hnew]
  have hnotice := notice_of_grow hgrow
  injection hnotice with _ hvertices
  exact ⟨origin, loaded, s, grown, hnew, hs, hgrow, hsettings, hvertices.symm⟩

/-- A box and a flower. -/
theorem drawn_by_turns_box_and_flower : ∃ origin loaded s grown,
    (new ⟨0, 100, 0, 10, 0, "__data__", 0, -0.2, -0.1, -0.2, 10, 0.8, 6⟩ = .ok (origin, loaded) ∧
      [Act.setLook initialLook, .setInput "LA", .setIterations 1, .clearRules,
        .addRule "A" "XJ"].foldl act origin = s ∧
      grow s = .ok (.generated 3 32 28) grown ∧ s.settings.DefaultDepths ∧
      grown.canvas.mesh.vertexCount < 0x100000000 ∧ 0 < s.settings.starPoints) ∧
    ∃ trace shapes order drawn, s.Draws grown trace shapes ∧
      DrawnByTurns grown.canvas.mesh (s.layers trace.sprouts shapes) order drawn ∧
      (Layered (order.map (layerAt (s.layers trace.sprouts shapes))) ↔
        .leaf ∉ s.layers trace.sprouts shapes ∨
        Organ.flower.symbol ∉ symbolsOf grown.strand.symbols) := by
  obtain ⟨origin, loaded, s, grown, hnew, hacts, hgrow, hsettings, hcount⟩ :=
    exists_counted_of_noticeAfter (by simp)
      (show noticeAfter ⟨0, 100, 0, 10, 0, "__data__", 0, -0.2, -0.1, -0.2, 10, 0.8, 6⟩
        [Act.setLook initialLook, .setInput "LA", .setIterations 1, .clearRules,
          .addRule "A" "XJ"] = some (.generated 3 32 28) by decide +kernel)
  have hdepths : s.settings.DefaultDepths := hsettings ▸ ⟨rfl, rfl, rfl, rfl⟩
  have hfits : grown.canvas.mesh.vertexCount < 0x100000000 := hcount ▸ by decide
  have hpoints : 0 < s.settings.starPoints := hsettings ▸ by decide
  obtain ⟨trace, shapes, order, drawn, hdraws, hdrawn, hlayered⟩ :=
    drawn_by_turns ⟨_, origin, loaded, _, hnew, hacts⟩ hgrow hdepths hfits
  exact ⟨origin, loaded, s, grown, ⟨hnew, hacts, hgrow, hdepths, hfits, hpoints⟩,
    trace, shapes, order, drawn, hdraws, hdrawn, hlayered hpoints⟩

/-- The star of a flower is drawn before the box in front of which it should be. -/
theorem star_drawn_before_box : ∃ origin loaded s notice grown trace shapes order drawn,
    new ⟨42, 300, 0, 10, 0, "__data__", 0, -0.2, -0.1, -0.2, 10, 0.8, 6⟩ = .ok (origin, loaded) ∧
    [Act.setLook initialLook, .setInput "LJ", .setIterations 0, .clearRules].foldl act origin = s ∧
    s.settings.DefaultDepths ∧ grow s = .ok notice grown ∧ s.Draws grown trace shapes ∧
    DrawnByTurns grown.canvas.mesh (s.layers trace.sprouts shapes) order drawn ∧
    ¬ Layered (order.map (layerAt (s.layers trace.sprouts shapes))) := by
  obtain ⟨origin, loaded, s, grown, hnew, hacts, hgrow, hsettings, hcount⟩ :=
    exists_counted_of_noticeAfter (by simp)
      (show noticeAfter ⟨42, 300, 0, 10, 0, "__data__", 0, -0.2, -0.1, -0.2, 10, 0.8, 6⟩
        [Act.setLook initialLook, .setInput "LJ", .setIterations 0, .clearRules] =
          some (.generated 2 32 28) by decide +kernel)
  have hdepths : s.settings.DefaultDepths := hsettings ▸ ⟨rfl, rfl, rfl, rfl⟩
  have hfits : grown.canvas.mesh.vertexCount < 0x100000000 := hcount ▸ by decide
  have hpoints : 0 < s.settings.starPoints := hsettings ▸ by decide
  obtain ⟨trace, shapes, hdraws⟩ := exists_draws hgrow
  rw [hdraws.mesh_eq] at hfits
  obtain ⟨order, drawn, hdrawn⟩ := exists_drawnByTurns hdraws.born hdepths hfits
  refine ⟨origin, loaded, s, _, grown, trace, shapes, order, drawn, hnew, hacts, hdepths, hgrow, hdraws,
    hdraws.mesh_eq ▸ hdrawn, ?_⟩
  have hbox : s.look.leafType = .box := hacts ▸ rfl
  have hpasses : s.clampedIterations = 0 := by
    rw [clampedIterations, hsettings, ← hacts]
    rfl
  have hstrand : grown.strand = .ofString "LJ" := by
    have hderive := hdraws.derived.1
    rw [hpasses, ← hacts] at hderive
    exact (Except.ok.inj hderive).symm
  have horgans : ∀ organ : Organ, organ ∈ trace.sprouts.map Sprout.organ ↔
      organ.symbol ∈ symbolsOf grown.strand.symbols :=
    fun _ => hdraws.mem_organs ⟨_, origin, loaded, _, hnew, hacts⟩
  rw [hdrawn.layered_iff hpoints hdraws.born, leaf_mem_layers hbox hdraws.born, horgans, horgans,
    hstrand]
  decide

end Scene
end PlantGrammar
