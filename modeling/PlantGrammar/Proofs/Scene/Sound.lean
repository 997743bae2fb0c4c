import PlantGrammar.Proofs.Grammar.Iteration
import PlantGrammar.Proofs.Scene.Loading
import PlantGrammar.Proofs.Scene.Organ
import PlantGrammar.Proofs.Turtle.Steady

/-! # Scenes that always grow

On points every organ can be drawn, given colors that pack, a leaf with two sizes, and natural counts
for the parts of a flower. A scene with such a look and a steady turtle grows from every seed that is
one, whatever its string is. The presets of the catalogue make such scenes.
-/
namespace PlantGrammar

namespace Painting
variable {x : Painting Unit}

/-- A painting that succeeds on every canvas. -/
def Succeeds (x : Painting Unit) : Prop := ∀ c, ∃ c', x c = .ok () c'

theorem Succeeds.bind {k : Unit → Painting Unit} (hx : x.Succeeds) (hk : (k ()).Succeeds) :
    Succeeds (x >>= k) := by
  intro c
  obtain ⟨c₁, hc₁⟩ := hx c
  obtain ⟨c₂, hc₂⟩ := hk c₁
  refine ⟨c₂, ?_⟩
  change EStateM.bind x k c = _
  simp only [EStateM.bind, hc₁, hc₂]

theorem succeeds_pure : Succeeds (pure ()) := fun c => ⟨c, rfl⟩

theorem succeeds_shape_emit {shape : Except Fault Mesh} {n : Mesh} (h : shape = .ok n) :
    Succeeds (.shape (.emit shape)) := by
  intro c
  subst h
  exact ⟨_, rfl⟩

theorem succeeds_forM {α : Type} {f : α → Painting Unit} {as : List α} (h : ∀ a ∈ as, (f a).Succeeds) :
    Succeeds (as.forM f) := by
  induction as with
  | nil => exact succeeds_pure
  | cons a as ih =>
    rw [List.forall_mem_cons] at h
    exact h.1.bind (ih h.2)

end Painting

namespace Drawing
variable {start finish : List Float} {color : List Channel} {n : ℤ}

/-- The frame of two points, if there is one, has the first as its base. -/
theorem exists_frame (a b c d : Float) : ∃ f?, Frame.of (.items [a, b]) (.items [c, d]) = .ok f? ∧
    ∀ f, f? = some f → f.base = [a, b] := by
  by_cases h : (!(Number.hypotenuse (c - a) (d - b)).isFinite ||
      Number.hypotenuse (c - a) (d - b) == 0) = true
  · refine ⟨none, if_pos h, ?_⟩
    intro f hf
    cases hf
  · refine ⟨_, if_neg h, ?_⟩
    intro f hf
    cases hf
    rfl

theorem exists_lineShape (hstart : IsPoint start) (hfinish : IsPoint finish)
    (hcolor : Color.pack color = .ok n) (startWidth finishWidth depth : Float) :
    ∃ m, lineShape (.items start) startWidth (.items finish) finishWidth depth color = .ok m := by
  obtain ⟨a, b, rfl⟩ := hstart
  obtain ⟨c, d, rfl⟩ := hfinish
  obtain ⟨f?, hf, -⟩ := exists_frame a b c d
  unfold lineShape
  rw [hf, hcolor]
  cases f? with
  | none => exact ⟨_, rfl⟩
  | some f => exact ⟨_, rfl⟩

theorem exists_kiteShape (hstart : IsPoint start) (hcolor : Color.pack color = .ok n) (tip : Vec)
    (width ratio depth : Float) :
    ∃ m, kiteShape (.items start) tip.coordinates width ratio depth color = .ok m := by
  obtain ⟨a, b, rfl⟩ := hstart
  obtain ⟨f?, hf, hbase⟩ := exists_frame a b tip.x tip.y
  unfold kiteShape Vec.coordinates
  rw [hf, hcolor]
  cases f? with
  | none => exact ⟨_, rfl⟩
  | some f =>
    change ∃ m, (Vec.ofPoint (.items f.base) >>= fun _ => _) = .ok m
    rw [hbase f rfl]
    exact ⟨_, rfl⟩

theorem exists_boxShape (hstart : IsPoint start) {size : List Float} (hsize : IsPoint size)
    (hcolor : Color.pack color = .ok n) (rotation depth : Float) :
    ∃ m, boxShape (.items start) (.items size) rotation depth color = .ok m := by
  obtain ⟨a, b, rfl⟩ := hstart
  obtain ⟨w, h, rfl⟩ := hsize
  unfold boxShape
  rw [hcolor]
  exact ⟨_, rfl⟩

theorem exists_ringShape (hfinish : IsPoint finish) (hcolor : Color.pack color = .ok n)
    (radii : List Float) (depth : Float) :
    ∃ m, ringShape (.items finish) radii depth color = .ok m := by
  obtain ⟨c, d, rfl⟩ := hfinish
  unfold ringShape
  rw [hcolor]
  exact ⟨_, rfl⟩

theorem naturalCount_of_nonneg {k : ℤ} (h : 0 ≤ k) : naturalCount k = .ok k.toNat :=
  if_neg (Int.not_lt.mpr h)

end Drawing

structure Appearance.Sound (look : Appearance) : Prop where
  branchColor : ∃ n, Color.pack look.branchColor = .ok n
  leafColor : ∃ n, Color.pack look.leafColor = .ok n
  flowerInnerColor : ∃ n, Color.pack look.flowerInnerColor = .ok n
  flowerOuterColor : ∃ n, Color.pack look.flowerOuterColor = .ok n
  leafSize : IsPoint look.leafSize

namespace Organ
open Drawing Painting
variable {settings : Settings} {look : Appearance} {start finish : List Float}
  (startWidth finishWidth : Float)

theorem exists_leafTip? (hlook : look.Sound) (hstart : IsPoint start) (hfinish : IsPoint finish) :
    ∃ tip?, leafTip? look ⟨.items start, startWidth, .items finish, finishWidth⟩ = .ok tip? := by
  obtain ⟨width, length, hsize⟩ := hlook.leafSize
  obtain ⟨a, b, rfl⟩ := hstart
  obtain ⟨c, d, rfl⟩ := hfinish
  have hitem : look.leafSize[1]? = some length := by
    rw [hsize]
    rfl
  by_cases h : (Number.hypotenuse (c - a) (d - b) == 0 ||
      !(Number.hypotenuse (c - a) (d - b)).isFinite) = true
  · exact ⟨none, if_pos h⟩
  · unfold leafTip?
    change ∃ tip?, ite _ _ _ = Except.ok tip?
    rw [if_neg h, hitem]
    exact ⟨_, rfl⟩

theorem succeeds_drawLeaf (hlook : look.Sound) (hstart : IsPoint start) (hfinish : IsPoint finish) :
    (drawLeaf settings look ⟨.items start, startWidth, .items finish, finishWidth⟩).Succeeds := by
  obtain ⟨color, hcolor⟩ := hlook.leafColor
  unfold drawLeaf
  cases look.leafType with
  | box =>
    intro c
    obtain ⟨m, hm⟩ :=
      exists_boxShape hstart hlook.leafSize hcolor c.generator.nextFloat.1 settings.leafDepth
    obtain ⟨c', hc'⟩ := succeeds_shape_emit hm ⟨c.generator.nextFloat.2, c.mesh⟩
    rw [← box_eq_emit] at hc'
    exact ⟨c', hc'⟩
  | kite =>
    obtain ⟨tip?, htip⟩ := exists_leafTip? startWidth finishWidth hlook hstart hfinish
    dsimp only
    rw [htip]
    cases tip? with
    | none => exact succeeds_pure
    | some tip =>
      obtain ⟨m, hm⟩ := exists_kiteShape hstart hcolor tip (look.leafSize.headD 0) look.leafRatio
        settings.leafDepth
      change Succeeds (.shape (kite _ _ _ _ _ _))
      rw [kite_eq_emit]
      exact succeeds_shape_emit hm

theorem succeeds_drawFlower (hlook : look.Sound) (hpoints : 0 ≤ settings.starPoints)
    (hsegments : 0 ≤ settings.circleSegments) (hfinish : IsPoint finish) (start : Coordinates) :
    (drawFlower settings look ⟨start, startWidth, .items finish, finishWidth⟩).Succeeds := by
  obtain ⟨outer, houter⟩ := hlook.flowerOuterColor
  obtain ⟨inner, hinner⟩ := hlook.flowerInnerColor
  unfold drawFlower
  rw [star_eq_emit, disc_eq_emit, starShape, discShape, naturalCount_of_nonneg hpoints,
    naturalCount_of_nonneg hsegments]
  obtain ⟨star, hstar⟩ := exists_ringShape hfinish houter
    (starRadii look.flowerOuterRadius (look.flowerOuterRadius * settings.starInnerRatio)
      settings.starPoints.toNat) settings.flowerOuterDepth
  obtain ⟨disc, hdisc⟩ := exists_ringShape hfinish hinner
    (List.replicate settings.circleSegments.toNat look.flowerInnerRadius) settings.flowerInnerDepth
  exact (succeeds_shape_emit hstar).bind (succeeds_shape_emit hdisc)

theorem succeeds_draw (hlook : look.Sound) (hpoints : 0 ≤ settings.starPoints)
    (hsegments : 0 ≤ settings.circleSegments) (hstart : IsPoint start) (hfinish : IsPoint finish)
    (organ : Organ) :
    (organ.draw settings look ⟨.items start, startWidth, .items finish, finishWidth⟩).Succeeds := by
  cases organ with
  | branch =>
    obtain ⟨color, hcolor⟩ := hlook.branchColor
    obtain ⟨m, hm⟩ := exists_lineShape hstart hfinish hcolor startWidth finishWidth settings.branchDepth
    change Succeeds (.shape (line _ _ _ _ _ _))
    rw [line_eq_emit]
    exact succeeds_shape_emit hm
  | leaf => exact succeeds_drawLeaf startWidth finishWidth hlook hstart hfinish
  | flower => exact succeeds_drawFlower startWidth finishWidth hlook hpoints hsegments hfinish _

end Organ

namespace Scene
variable {s : Scene}

structure Sound (s : Scene) : Prop where
  seed : 0 ≤ s.settings.seed
  starPoints : 0 ≤ s.settings.starPoints
  circleSegments : 0 ≤ s.settings.circleSegments
  turtle : s.lsystem.turtle.Steady
  look : s.look.Sound

theorem Sound.succeeds_paintCall (hs : s.Sound) {call : Call} (hstart : IsPoint call.start)
    (hfinish : IsPoint call.finish) : (s.paintCall call).Succeeds := by
  unfold paintCall
  cases Organ.ofSymbol? call.symbol with
  | none => exact Painting.succeeds_pure
  | some organ =>
    exact organ.succeeds_draw _ _ hs.look hs.starPoints hs.circleSegments hstart hfinish

theorem Sound.succeeds_paintTrace (hs : s.Sound) (registry : Registry) (symbols : List String) :
    (s.paintTrace (s.lsystem.turtle.walk registry symbols)).Succeeds := by
  have hcalls : (s.lsystem.turtle.walk registry symbols).calls.forM s.paintCall =
      (s.lsystem.turtle.walk registry symbols).calls.toList.forM s.paintCall :=
    List.forM_toArray (s.lsystem.turtle.walk registry symbols).calls.toList s.paintCall
  unfold paintTrace
  rw [Turtle.fault_walk_of_steady hs.turtle, hcalls]
  refine Painting.Succeeds.bind (Painting.succeeds_forM ?_) Painting.succeeds_pure
  intro call hcall
  obtain ⟨hstart, hfinish⟩ := Turtle.points_of_mem_calls hs.turtle hcall
  exact hs.succeeds_paintCall hstart hfinish

theorem ofSeed_of_nonneg {seed : ℤ} (h : 0 ≤ seed) :
    ∃ generator, Generator.ofSeed seed = .ok generator :=
  ⟨_, if_neg (Int.not_lt.mpr h)⟩

theorem grow_eq_ok_of_outcome {mesh : Mesh} {strand : Strand} (h : s.outcome = .ok (mesh, strand)) :
    ∃ notice grown, grow s = .ok notice grown ∧ grown.canvas.mesh = mesh ∧ grown.strand = strand := by
  unfold outcome at h
  split at h
  · rename_i notice grown hgrow
    cases h
    exact ⟨notice, grown, hgrow, rfl, rfl⟩
  · cases h

/-- A sound scene grows, and its string is derived in the clamped number of steps. -/
theorem Sound.exists_outcome (hs : s.Sound) : ∃ mesh strand, s.outcome = .ok (mesh, strand) ∧
    s.rules.deriveFrom s.clampedIterations.toNat (.ofString s.input) = .ok strand := by
  obtain ⟨generator, hgenerator⟩ := ofSeed_of_nonneg hs.seed
  have hderive := Rules.derive_eq_ofList s.rules s.input s.clampedIterations
  generalize Strand.ofList _ = strand at hderive
  obtain ⟨canvas, hcanvas⟩ :=
    hs.succeeds_paintTrace s.lsystem.registry (symbolsOf strand.symbols) ⟨generator, .empty⟩
  refine ⟨canvas.mesh, strand, ?_, hderive⟩
  rw [outcome_eq, hgenerator, LSystem.grow, hderive]
  change (s.painted generator _ >>= fun mesh => _) = _
  rw [painted, hcanvas]
  rfl

theorem steady_of_mem_catalogue {p : Preset} (hp : p ∈ Preset.catalogue) : p.turtle.Steady := by
  simp only [Preset.catalogue, List.mem_cons, List.not_mem_nil, or_false] at hp
  rcases hp with rfl | rfl | rfl | rfl
  all_goals exact ⟨⟨⟨_, _, rfl⟩, by decide +kernel⟩, by decide +kernel⟩

theorem sound_look_apply {p : Preset} (hp : p ∈ Preset.catalogue) (s : Scene) (key : PresetKey) :
    (s.apply key p).look.Sound := by
  simp only [Preset.catalogue, List.mem_cons, List.not_mem_nil, or_false] at hp
  rcases hp with rfl | rfl | rfl | rfl
  all_goals exact ⟨⟨_, rfl⟩, ⟨_, rfl⟩, ⟨_, rfl⟩, ⟨_, rfl⟩, ⟨_, _, rfl⟩⟩

theorem sound_apply {p : Preset} (hp : p ∈ Preset.catalogue) (hseed : 0 ≤ s.settings.seed)
    (hpoints : 0 ≤ s.settings.starPoints) (hsegments : 0 ≤ s.settings.circleSegments)
    (key : PresetKey) : (s.apply key p).Sound :=
  ⟨hseed, hpoints, hsegments, steady_of_mem_catalogue hp, sound_look_apply hp s key⟩

theorem Sound.exists_grow (hs : s.Sound) : ∃ notice grown, grow s = .ok notice grown := by
  obtain ⟨mesh, strand, houtcome, -⟩ := hs.exists_outcome
  obtain ⟨notice, grown, hgrow, -, -⟩ := grow_eq_ok_of_outcome houtcome
  exact ⟨notice, grown, hgrow⟩

theorem mem_catalogue_of_find {key : PresetKey} {p : Preset} (h : Preset.find key = .ok p) :
    p ∈ Preset.catalogue := by
  by_cases hkey : key.Known
  · obtain ⟨q, hq, hfind⟩ := Preset.find_of_known hkey
    obtain rfl := Except.ok.inj (h.symm.trans hfind)
    exact hq
  · rw [Preset.find_of_not_known hkey] at h
    cases h

theorem exists_new {settings : Settings} {p : Preset} (hseed : 0 ≤ settings.seed)
    (hpoints : 0 ≤ settings.starPoints) (hsegments : 0 ≤ settings.circleSegments)
    (h : Preset.find (.index settings.defaultPreset) = .ok p) :
    ∃ origin, new settings = .ok (origin, .loaded p.name) ∧ origin.settings = settings ∧
      origin.Sound := by
  obtain ⟨generator, hgenerator⟩ := ofSeed_of_nonneg hseed
  unfold new
  rw [hgenerator]
  exact ⟨_, load_of_find h, rfl, sound_apply (mem_catalogue_of_find h) hseed hpoints hsegments _⟩

end Scene
end PlantGrammar
