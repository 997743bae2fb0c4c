import PlantGrammar.Proofs.Scene.Picture
import PlantGrammar.Proofs.Turtle.Registries

/-! # Sprouts

A generation draws one organ after the other, each on the segment that the turtle reports at its
symbol. What is drawn is thus a list of organs with their stems, and the mesh is one shape for each.
-/
namespace PlantGrammar

structure Sprout where
  organ : Organ
  stem : Stem
deriving Repr, DecidableEq, Inhabited

def Call.sprout? (c : Call) : Option Sprout := (Organ.ofSymbol? c.symbol).map (⟨·, c.stem⟩)

/-- The organs that the calls of a walk name, each on the segment of its call. -/
def Trace.sprouts (t : Trace) : List Sprout := t.calls.toList.filterMap Call.sprout?

namespace Scene
variable {s grown : Scene} {notice : Notice} {sprout : Sprout} {sprouts : List Sprout} {shape : Mesh}
  {c c' : Canvas} {trace : Trace} {shapes : List Mesh}

def drawSprout (s : Scene) (sprout : Sprout) : Painting Unit :=
  sprout.organ.draw s.settings s.look sprout.stem

/-- A shape that a sprout can add. A box may be turned by any number. -/
def Bears (s : Scene) (sprout : Sprout) (shape : Mesh) : Prop :=
  ∃ rotation, sprout.organ.Grows s.settings s.look sprout.stem rotation shape

theorem forM_paintCall (s : Scene) (calls : List Call) :
    calls.forM s.paintCall = (calls.filterMap Call.sprout?).forM s.drawSprout := by
  induction calls with
  | nil => rfl
  | cons call rest ih =>
    change (s.paintCall call >>= fun _ => rest.forM s.paintCall) = _
    rw [ih, List.filterMap_cons, paintCall, Call.sprout?]
    cases Organ.ofSymbol? call.symbol with
    | none => rfl
    | some organ => rfl

theorem exists_call_of_sprout? {call : Call} (h : call.sprout? = some sprout) :
    ∃ w : Walk, sprout.stem = w.stem := by
  obtain ⟨organ, -, rfl⟩ := Option.map_eq_some_iff.mp h
  exact ⟨⟨⟨call.finish, 0, call.finishWidth, 0⟩, [], call.start, call.startWidth⟩, rfl⟩

theorem drawSprout_eq_ok (hstem : ∃ w : Walk, sprout.stem = w.stem)
    (h : s.drawSprout sprout c = .ok () c') :
    ∃ shape, s.Bears sprout shape ∧ c'.mesh = c.mesh.append shape := by
  obtain ⟨organ, stem⟩ := sprout
  obtain ⟨w, rfl⟩ := hstem
  obtain ⟨shape, hshape, rfl⟩ := Organ.draw_eq_ok h
  exact ⟨shape, ⟨_, hshape⟩, rfl⟩

theorem forM_drawSprout_eq_ok (hstems : ∀ sprout ∈ sprouts, ∃ w : Walk, sprout.stem = w.stem)
    (h : sprouts.forM s.drawSprout c = .ok () c') :
    ∃ shapes, List.Forall₂ s.Bears sprouts shapes ∧ c'.mesh = c.mesh.append (.concat shapes) := by
  induction sprouts generalizing c with
  | nil =>
    cases h
    exact ⟨[], .nil, (Mesh.append_empty _).symm⟩
  | cons sprout rest ih =>
    rw [List.forall_mem_cons] at hstems
    obtain ⟨⟨⟩, c₁, hfirst, hrest⟩ := of_bind_eq_ok h
    obtain ⟨shape, hshape, hmesh⟩ := drawSprout_eq_ok hstems.1 hfirst
    obtain ⟨shapes, hshapes, hmesh'⟩ := ih hstems.2 hrest
    refine ⟨shape :: shapes, .cons hshape hshapes, ?_⟩
    rw [hmesh', hmesh, Mesh.append_assoc, Mesh.concat_cons]

/-- The trace that a generation walks, and the shapes that its sprouts add. -/
structure Draws (s grown : Scene) (trace : Trace) (shapes : List Mesh) : Prop where
  walked : s.installRules.grow s.input s.clampedIterations = .ok (grown.strand, trace)
  finished : trace.fault? = none
  painted : ∃ generator, Generator.ofSeed s.settings.seed = .ok generator ∧
    trace.sprouts.forM s.drawSprout ⟨generator, .empty⟩ = .ok () grown.canvas
  born : List.Forall₂ s.Bears trace.sprouts shapes
  mesh_eq : grown.canvas.mesh = .concat shapes

/-- The notice of a generation counts what has grown. -/
theorem notice_of_grow (h : grow s = .ok notice grown) :
    notice = .generated grown.strand.length grown.canvas.mesh.vertexCount
      grown.canvas.mesh.triangleCount := by
  unfold grow at h
  split at h
  · cases h
  · dsimp only at h
    split at h
    · cases h
    · split at h
      · cases h
      · cases h
        rfl

theorem exists_draws (h : grow s = .ok notice grown) : ∃ trace shapes, s.Draws grown trace shapes := by
  obtain ⟨generator, trace, hseed, hgrow, hpaint⟩ := grow_eq_ok h
  obtain ⟨hfault, hcalls⟩ := paintTrace_eq_ok hpaint
  rw [forM_paintCall] at hcalls
  have hstems : ∀ sprout ∈ trace.sprouts, ∃ w : Walk, sprout.stem = w.stem := by
    intro sprout hsprout
    obtain ⟨call, -, hcall⟩ := List.mem_filterMap.mp hsprout
    exact exists_call_of_sprout? hcall
  obtain ⟨shapes, hshapes, hmesh⟩ := forM_drawSprout_eq_ok hstems hcalls
  rw [← installRules_eq] at hgrow
  exact ⟨trace, shapes, hgrow, hfault, ⟨generator, hseed, hcalls⟩, hshapes,
    hmesh.trans (Mesh.empty_append _)⟩

theorem map_organ_sprouts (t : Trace) : t.sprouts.map Sprout.organ =
    (t.calls.toList.map Call.symbol).filterMap Organ.ofSymbol? := by
  rw [Trace.sprouts, List.map_filterMap, List.filterMap_map]
  congr 1
  funext call
  rw [Function.comp_apply, Call.sprout?, Option.map_map]
  exact Option.map_id'

theorem Draws.derived (h : s.Draws grown trace shapes) :
    s.rules.derive s.input s.clampedIterations = .ok grown.strand ∧
      trace = s.lsystem.turtle.walk s.lsystem.registry (symbolsOf grown.strand.symbols) := by
  have hwalked := h.walked
  rw [installRules_eq] at hwalked
  obtain ⟨strand, hderive, hwalk⟩ := bind_eq_ok.mp hwalked
  cases hwalk
  exact ⟨hderive, rfl⟩

theorem reported_of_ofSymbol? {symbol : String} {organ : Organ}
    (h : Organ.ofSymbol? symbol = some organ) : Turtle.Reported initialSystem.registry symbol := by
  rw [← Organ.symbol_of_ofSymbol? h]
  cases organ <;> decide

/-- The sprouts are the organs that the strand names, in order. -/
theorem Draws.organs_eq (hs : s.Reachable) (h : s.Draws grown trace shapes) :
    trace.sprouts.map Sprout.organ = (symbolsOf grown.strand.symbols).filterMap Organ.ofSymbol? := by
  have hfinished := h.finished
  rw [h.derived.2, hs.registry_eq] at hfinished
  have hsymbols := Turtle.map_symbol_resume initialSystem.registry hfinished
  rw [map_organ_sprouts, h.derived.2, hs.registry_eq, Turtle.walk, hsymbols, List.map_nil,
    List.nil_append, List.filterMap_filter]
  congr 1
  funext symbol
  cases ho : Organ.ofSymbol? symbol with
  | none => simp
  | some organ => simp [reported_of_ofSymbol? ho]

theorem Draws.mem_organs (hs : s.Reachable) (h : s.Draws grown trace shapes) {organ : Organ} :
    organ ∈ trace.sprouts.map Sprout.organ ↔ organ.symbol ∈ symbolsOf grown.strand.symbols := by
  rw [h.organs_eq hs, List.mem_filterMap]
  constructor
  · rintro ⟨symbol, hmem, hsymbol⟩
    rwa [Organ.symbol_of_ofSymbol? hsymbol]
  · intro hmem
    exact ⟨organ.symbol, hmem, organ.ofSymbol?_symbol⟩

end Scene
end PlantGrammar
