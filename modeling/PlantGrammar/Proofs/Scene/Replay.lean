import PlantGrammar.Proofs.Scene.Sound
import PlantGrammar.Proofs.Scene.Sprouts
import PlantGrammar.Proofs.Turtle.Registries
import PlantGrammar.Skeleton

/-! # Skeleton and mesh of one plant

An L-system with the turtle and the rules of a scene, on which only steps forward are registered,
records the segments on which the scene draws its branches. Leaves and flowers come between the
branches, but change neither the segments nor the quads.
-/
namespace PlantGrammar

/-- A stem as a recorder keeps it, under a label. -/
def Stem.segment (label : String) (stem : Stem) : Segment :=
  ⟨label, stem.start, stem.startWidth, stem.finish, stem.finishWidth⟩

namespace Segment

/-- The distance between the ends is finite and not zero. -/
def isStraight (e : Segment) : Bool :=
  match e.start.spread, e.finish.spread with
  | .ok p, .ok q => decide (p.Apart q)
  | _, _ => false

theorem isStraight_eq {e : Segment} {p q : Vec} (hp : e.start.spread = .ok p)
    (hq : e.finish.spread = .ok q) : e.isStraight = decide (p.Apart q) := by
  unfold isStraight
  rw [hp, hq]

end Segment

/-- The segment of a sprout that is a branch. -/
def Sprout.segment? (label : String) (sprout : Sprout) : Option Segment :=
  if sprout.organ = .branch then some (sprout.stem.segment label) else none

/-- The shapes of branches that are not empty. -/
def quads (sprouts : List Sprout) (shapes : List Mesh) : List Mesh :=
  ((sprouts.zip shapes).filter fun p => p.1.organ = .branch ∧ p.2 ≠ .empty).map Prod.snd

namespace Scene
variable {s grown : Scene} {notice : Notice} {trace : Trace} {shapes : List Mesh}
  {sprouts : List Sprout}

/-- A system of its own with the turtle and the rules of a scene. Steps forward are registered, and
nothing else. -/
def replay (s : Scene) (label : String) : LSystem :=
  let l := { LSystem.ofCursor s.lsystem.turtle.start with turtle := s.lsystem.turtle }
  (s.rules.entries.foldl (fun l e => l.addRule e.1 e.2) l).register drawSymbol label

theorem replay_eq (s : Scene) (label : String) :
    s.replay label = ⟨s.lsystem.turtle, s.rules, OrderedMap.empty.insert drawSymbol label⟩ := by
  have hrules := foldl_addRule s.rules.entries
    { LSystem.ofCursor s.lsystem.turtle.start with turtle := s.lsystem.turtle }
  have hentries : s.rules.entries.foldl (fun m e => m.insert e.1 e.2) OrderedMap.empty = s.rules :=
    s.rules.ofList_entries
  refine (congrArg (fun l => l.register drawSymbol label) hrules).trans ?_
  change LSystem.mk _ (s.rules.entries.foldl (fun m e => m.insert e.1 e.2) OrderedMap.empty) _ = _
  rw [hentries]
  rfl

/-- At each symbol the recorder is told what the scene draws a branch on. -/
theorem map_segment_call? (label : String) (w : Walk) (symbol : String) :
    (Turtle.call? (OrderedMap.empty.insert drawSymbol label) w symbol).map Call.segment =
      ((Turtle.call? initialSystem.registry w symbol).bind Call.sprout?).bind
        (Sprout.segment? label) := by
  by_cases hdraw : symbol = drawSymbol
  · subst hdraw
    rfl
  · have hget : (OrderedMap.empty.insert drawSymbol label).get? symbol = none := by
      rw [OrderedMap.get?_insert, if_neg fun h : drawSymbol = symbol => hdraw h.symm]
      rfl
    have hleft : Turtle.call? (OrderedMap.empty.insert drawSymbol label) w symbol = none := by
      rw [Turtle.call?_eq, hget]
      split <;> rfl
    rw [hleft]
    cases hcall : Turtle.call? initialSystem.registry w symbol with
    | none => rfl
    | some call =>
      rw [Option.bind_some, Call.sprout?, symbol_of_call? hcall]
      cases ho : Organ.ofSymbol? symbol with
      | none => rfl
      | some organ =>
        have hne : organ ≠ .branch := by
          rintro rfl
          exact hdraw (Organ.symbol_of_ofSymbol? ho).symm
        exact (if_neg hne).symm

theorem map_segment_callAt? (t : Turtle) (label : String) (symbols : List String) (i : ℕ) :
    (t.callAt? (OrderedMap.empty.insert drawSymbol label) symbols i).map Call.segment =
      ((t.callAt? initialSystem.registry symbols i).bind Call.sprout?).bind
        (Sprout.segment? label) := by
  unfold Turtle.callAt?
  cases symbols[i]? with
  | none => rfl
  | some symbol =>
    cases t.after (symbols.take (i + 1)) with
    | error fault => rfl
    | ok w => exact map_segment_call? label w symbol

theorem map_segment_calls (t : Turtle) (label : String) (symbols : List String) :
    (t.walk (OrderedMap.empty.insert drawSymbol label) symbols).calls.toList.map Call.segment =
      (t.walk initialSystem.registry symbols).sprouts.filterMap (Sprout.segment? label) := by
  unfold Trace.sprouts
  rw [Turtle.toList_walk_calls, Turtle.toList_walk_calls, List.map_filterMap, List.filterMap_filterMap,
    List.filterMap_filterMap]
  congr 1
  funext i
  rw [map_segment_callAt?, Option.bind_assoc]

theorem record_replay (hs : s.Reachable) (hwalked : s.installRules.grow s.input s.clampedIterations =
    .ok (grown.strand, trace)) (hfinished : trace.fault? = none) (label : String) (afresh : Bool) :
    (s.replay label).record s.input s.clampedIterations afresh 1 =
      .ok (trace.sprouts.filterMap (Sprout.segment? label)) := by
  rw [installRules_eq] at hwalked
  obtain ⟨strand, hderive, hwalk⟩ := bind_eq_ok.mp hwalked
  cases hwalk
  have hgrow : (s.replay label).grow s.input s.clampedIterations = .ok (grown.strand,
      s.lsystem.turtle.walk (OrderedMap.empty.insert drawSymbol label)
        (symbolsOf grown.strand.symbols)) := by
    rw [replay_eq, LSystem.grow, hderive]
    rfl
  rw [Turtle.walk_fault_congr _ _ (OrderedMap.empty.insert drawSymbol label)] at hfinished
  rw [hs.registry_eq, ← map_segment_calls]
  unfold LSystem.record
  simp only [List.range_one, List.foldlM_cons, List.foldlM_nil, hgrow, bind, Except.bind, hfinished]
  cases afresh <;> rfl

/-- The quad of a segment, as wide at each end, at the depth and in the color of branches. -/
def Outlines (s : Scene) (e : Segment) (quad : Mesh) : Prop :=
  ∃ p q color, e.start.spread = .ok p ∧ e.finish.spread = .ok q ∧
    Color.pack s.look.branchColor = .ok color ∧
    quad = .quad (.between p q) e.startWidth e.finishWidth s.settings.branchDepth color

theorem quads_cons_of_ne {sprout : Sprout} (h : sprout.organ ≠ .branch) (shape : Mesh)
    (sprouts : List Sprout) (shapes : List Mesh) :
    quads (sprout :: sprouts) (shape :: shapes) = quads sprouts shapes := by
  simp [quads, h]

theorem quads_cons_empty (sprout : Sprout) (sprouts : List Sprout) (shapes : List Mesh) :
    quads (sprout :: sprouts) (.empty :: shapes) = quads sprouts shapes := by
  simp [quads]

theorem quads_cons_branch (stem : Stem) {shape : Mesh} (h : shape ≠ .empty) (sprouts : List Sprout)
    (shapes : List Mesh) :
    quads (⟨.branch, stem⟩ :: sprouts) (shape :: shapes) = shape :: quads sprouts shapes := by
  simp [quads, h]

/-- The straight segments have a quad each, and there are no others. -/
theorem outlines_quads (h : List.Forall₂ s.Bears sprouts shapes) (label : String) :
    List.Forall₂ s.Outlines
      ((sprouts.filterMap (Sprout.segment? label)).filter Segment.isStraight)
      (quads sprouts shapes) := by
  induction h with
  | nil => exact .nil
  | @cons sprout shape sprouts shapes hbears _ ih =>
    obtain ⟨organ, stem⟩ := sprout
    obtain ⟨rotation, hgrows⟩ := hbears
    by_cases horgan : organ = .branch
    · subst horgan
      have hsome : Sprout.segment? label ⟨.branch, stem⟩ = some (stem.segment label) := rfl
      rw [List.filterMap_cons_some hsome]
      cases hgrows with
      | @quad p q color hp hq hapart hcolor =>
        have hstraight : (stem.segment label).isStraight = true := by
          rw [Segment.isStraight_eq hp hq]
          exact decide_eq_true hapart
        rw [List.filter_cons_of_pos hstraight, quads_cons_branch stem (Mesh.counts_quad ..).ne_empty]
        exact .cons ⟨p, q, color, hp, hq, hcolor, rfl⟩ ih
      | @noQuad p q hp hq hnear =>
        have hstraight : ¬ (stem.segment label).isStraight = true := by
          rw [Segment.isStraight_eq hp hq]
          exact fun h => hnear (of_decide_eq_true h)
        rw [List.filter_cons_of_neg hstraight, quads_cons_empty]
        exact ih
    · have hnone : Sprout.segment? label ⟨organ, stem⟩ = none := if_neg horgan
      rw [List.filterMap_cons_none hnone, quads_cons_of_ne horgan]
      exact ih

/-- What is recorded of a replay and what is drawn belong together: the recorded segments are those on
which branches are drawn, in order; each straight one has its quad, the others none; and every quad is
in the mesh as it was drawn, its indices shifted past all vertices before it. -/
structure Retraces (s grown : Scene) (label : String) (trace : Trace) (shapes : List Mesh)
    (segments : List Segment) : Prop where
  draws : s.Draws grown trace shapes
  segments_eq : segments =
    ((trace.sprouts.filter (·.organ = .branch)).map Sprout.stem).map (Stem.segment label)
  quads_outline : List.Forall₂ s.Outlines (segments.filter Segment.isStraight)
    (quads trace.sprouts shapes)
  kept : ∀ before quad after, shapes = before ++ quad :: after →
    grown.canvas.mesh = ((Mesh.concat before).append quad).append (.concat after)

theorem concat_append_cons (before : List Mesh) (shape : Mesh) (after : List Mesh) :
    Mesh.concat (before ++ shape :: after) =
      ((Mesh.concat before).append shape).append (.concat after) := by
  rw [Mesh.concat, List.foldl_append]
  change (shape :: after).foldl Mesh.append (.concat before) = _
  rw [List.foldl_cons, Mesh.foldl_append]

theorem filterMap_segment? (label : String) (sprouts : List Sprout) :
    sprouts.filterMap (Sprout.segment? label) =
      ((sprouts.filter (·.organ = .branch)).map Sprout.stem).map (Stem.segment label) := by
  induction sprouts with
  | nil => rfl
  | cons sprout rest ih =>
    by_cases h : sprout.organ = .branch
    · simp [Sprout.segment?, h, ih]
    · simp [Sprout.segment?, h, ih]

/-- A scene that grows is retraced by the replay of its turtle, its rules and its input through an
L-system that records steps forward. -/
theorem replay_retraces (hs : s.Reachable) (h : grow s = .ok notice grown) (label : String)
    (afresh : Bool) : ∃ trace shapes segments,
      (s.replay label).record s.input s.clampedIterations afresh 1 = .ok segments ∧
      s.Retraces grown label trace shapes segments := by
  obtain ⟨trace, shapes, hdraws⟩ := exists_draws h
  have hrecord := record_replay hs hdraws.walked hdraws.finished label afresh
  refine ⟨trace, shapes, _, hrecord, hdraws, filterMap_segment? label trace.sprouts,
    outlines_quads hdraws.born label, ?_⟩
  intro before quad after hshapes
  rw [hdraws.mesh_eq, hshapes, concat_append_cons]

/-- A leaf and a flower between the branches of a new scene, which shows the first preset. -/
theorem replay_retraces_leaf_between_branches : ∃ origin loaded s notice grown,
    (new ⟨42, 300, 0, 10, 0, "__data__", 0, -0.2, -0.1, -0.2, 10, 0.8, 6⟩ = .ok (origin, loaded) ∧
      [Act.setInput "FXfF", .setRules (.ofList [("X", "L+FJ")]), .setIterations 1].foldl act origin = s ∧
      grow s = .ok notice grown) ∧
    ∃ trace shapes segments,
      (s.replay "F").record s.input s.clampedIterations true 1 = .ok segments ∧
      s.Retraces grown "F" trace shapes segments := by
  obtain ⟨origin, hnew, -, hsound⟩ : ∃ origin,
      new ⟨42, 300, 0, 10, 0, "__data__", 0, -0.2, -0.1, -0.2, 10, 0.8, 6⟩ =
        .ok (origin, .loaded Preset.flower1.name) ∧ origin.settings = _ ∧ origin.Sound :=
    exists_new (by decide) (by decide) (by decide) rfl
  obtain ⟨notice, grown, hgrow⟩ := Sound.exists_grow
    (s := [Act.setInput "FXfF", .setRules (.ofList [("X", "L+FJ")]), .setIterations 1].foldl act origin)
    ⟨hsound.seed, hsound.starPoints, hsound.circleSegments, hsound.turtle, hsound.look⟩
  exact ⟨origin, _, _, notice, grown, ⟨hnew, rfl, hgrow⟩,
    replay_retraces ⟨_, origin, _, _, hnew, rfl⟩ hgrow "F" true⟩

end Scene
end PlantGrammar
