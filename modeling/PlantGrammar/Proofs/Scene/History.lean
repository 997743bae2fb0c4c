import PlantGrammar.Proofs.Grammar.Derivation
import PlantGrammar.Scene

/-! # Growing forgets the past

Four parts of a scene outlive a generation: the generator, the mesh, the rules inside the L-system
and the strand. A generation reads none of them before it has set them anew, so what it grows depends
only on what the user can see.
-/
namespace PlantGrammar.Scene
variable {s s₁ s₂ : Scene}

/-- The scene that a computation leaves behind, also when it fails. -/
def leftBy {α : Type} : EStateM.Result Fault Scene α → Scene
  | .ok _ s => s
  | .error _ s => s

/-- What can happen to a scene. Rules can also be put into its L-system directly. -/
inductive Act where
  | load (key : PresetKey)
  | addRule (key body : String)
  | clearRules
  | setSettings (settings : Settings)
  | setLook (look : Appearance)
  | setPresetKey (key : PresetKey)
  | setInput (input : String)
  | setIterations (iterations : Int)
  | setRules (rules : Rules)
  | setTurtle (turtle : Turtle)
  | setCanvas (canvas : Canvas)
  | setStrand (strand : Strand)
  | install (key body : String)
  | uninstall
  | draw (organ : Organ) (stem : Stem)
  | grow
deriving Repr, DecidableEq

def act (s : Scene) : Act → Scene
  | .load key =>
    match s.load key with
    | .ok (loaded, _) => loaded
    | .error _ => s
  | .addRule key body => (s.addRule key body).1
  | .clearRules => s.clearRules
  | .setSettings settings => { s with settings }
  | .setLook look => { s with look }
  | .setPresetKey presetKey => { s with presetKey }
  | .setInput input => { s with input }
  | .setIterations iterations => { s with iterations }
  | .setRules rules => { s with rules }
  | .setTurtle turtle => { s with lsystem.turtle := turtle }
  | .setCanvas canvas => { s with canvas }
  | .setStrand strand => { s with strand }
  | .install key body => { s with lsystem := s.lsystem.addRule key body }
  | .uninstall => { s with lsystem := s.lsystem.clearRules }
  | .draw organ stem => leftBy (drawOrgan organ stem s)
  | .grow => leftBy (grow s)

/-- A scene that comes from a new one by any acts. -/
def Reachable (s : Scene) : Prop :=
  ∃ settings origin notice, ∃ acts : List Act,
    new settings = .ok (origin, notice) ∧ acts.foldl act origin = s

theorem load_of_find {key : PresetKey} {p : Preset} (h : Preset.find key = .ok p) :
    s.load key = .ok (s.apply key p, .loaded p.name) := by
  rw [load, h]
  rfl

/-- A load that finds no preset changes nothing. -/
theorem load_of_find_error {key : PresetKey} {fault : Fault} (h : Preset.find key = .error fault) :
    s.load key = .error fault ∧ s.act (.load key) = s := by
  have hl : s.load key = .error fault := by rw [load, h]; rfl
  exact ⟨hl, by rw [act, hl]⟩

theorem act_load (s : Scene) (key : PresetKey) :
    s.act (.load key) = s ∨ ∃ p, s.act (.load key) = s.apply key p := by
  cases h : Preset.find key with
  | error fault => exact .inl (load_of_find_error h).2
  | ok p => exact .inr ⟨p, by rw [act, load_of_find h]⟩

theorem foldl_addRule (es : List (String × String)) (l : LSystem) :
    es.foldl (fun l e => l.addRule e.1 e.2) l =
      { l with rules := es.foldl (fun m e => m.insert e.1 e.2) l.rules } := by
  induction es generalizing l with
  | nil => rfl
  | cons e rest ih => exact ih (l.addRule e.1 e.2)

/-- Installing the rules leaves exactly those of the scene, in their order. -/
theorem installRules_eq (s : Scene) : s.installRules = { s.lsystem with rules := s.rules } := by
  have h : s.installRules = { s.lsystem with rules := .ofList s.rules.entries } :=
    foldl_addRule s.rules.entries s.lsystem.clearRules
  rw [h, OrderedMap.ofList_entries]

/-- A generation changes the rules inside the L-system, the canvas and the strand, also when it
fails. -/
theorem leftBy_grow (s : Scene) : ∃ rules canvas strand,
    leftBy (grow s) = { s with lsystem := { s.lsystem with rules }, canvas, strand } := by
  unfold grow
  cases Generator.ofSeed s.settings.seed with
  | error fault => exact ⟨s.lsystem.rules, s.canvas, s.strand, rfl⟩
  | ok generator =>
    dsimp only
    rw [installRules_eq]
    split
    · exact ⟨_, _, _, rfl⟩
    · split
      · exact ⟨_, _, _, rfl⟩
      · exact ⟨_, _, _, rfl⟩

theorem leftBy_drawOrgan (organ : Organ) (stem : Stem) (s : Scene) :
    ∃ canvas, leftBy (drawOrgan organ stem s) = { s with canvas } := by
  unfold drawOrgan
  cases organ.draw s.settings s.look stem s.canvas with
  | error fault canvas => exact ⟨canvas, rfl⟩
  | ok _ canvas => exact ⟨canvas, rfl⟩

theorem registry_load {key : PresetKey} {notice : Notice} (h : s.load key = .ok (s₁, notice)) :
    s₁.lsystem.registry = s.lsystem.registry := by
  obtain ⟨p, -, h⟩ := bind_eq_ok.mp h
  cases h
  rfl

theorem registry_act (s : Scene) (a : Act) : (s.act a).lsystem.registry = s.lsystem.registry := by
  cases a with
  | load key =>
    rcases s.act_load key with h | ⟨p, h⟩
    · rw [h]
    · rw [h]
      rfl
  | addRule key body =>
    rw [act, addRule]
    split
    · rfl
    · rfl
  | draw organ stem =>
    obtain ⟨canvas, h⟩ := leftBy_drawOrgan organ stem s
    rw [act, h]
  | grow =>
    obtain ⟨rules, canvas, strand, h⟩ := leftBy_grow s
    rw [act, h]
  | _ => rfl

theorem registry_foldl_act (acts : List Act) (s : Scene) :
    (acts.foldl act s).lsystem.registry = s.lsystem.registry := by
  induction acts generalizing s with
  | nil => rfl
  | cons a rest ih => rw [List.foldl_cons, ih, registry_act]

theorem registry_new {settings : Settings} {notice : Notice} (h : new settings = .ok (s, notice)) :
    s.lsystem.registry = initialSystem.registry := by
  obtain ⟨generator, -, h⟩ := bind_eq_ok.mp h
  rw [registry_load h]

theorem Reachable.registry_eq (h : s.Reachable) : s.lsystem.registry = initialSystem.registry := by
  obtain ⟨settings, origin, notice, acts, hnew, rfl⟩ := h
  rw [registry_foldl_act, registry_new hnew]

/-- The mesh and the strand that a generation gives. -/
def outcome (s : Scene) : Except Fault (Mesh × Strand) :=
  match grow s with
  | .ok _ grown => .ok (grown.canvas.mesh, grown.strand)
  | .error fault _ => .error fault

def painted (s : Scene) (generator : Generator) (trace : Trace) : Except Fault Mesh :=
  match s.paintTrace trace ⟨generator, .empty⟩ with
  | .ok _ canvas => .ok canvas.mesh
  | .error fault _ => .error fault

/-- A generation reads what the user sees, and the registry. -/
theorem outcome_eq (s : Scene) : s.outcome = (do
    let generator ← Generator.ofSeed s.settings.seed
    let grown ← LSystem.grow ⟨s.lsystem.turtle, s.rules, s.lsystem.registry⟩ s.input s.clampedIterations
    let mesh ← s.painted generator grown.2
    return (mesh, grown.1)) := by
  unfold outcome grow
  rw [installRules_eq]
  cases Generator.ofSeed s.settings.seed with
  | error fault => rfl
  | ok generator =>
    have hpaint (l : LSystem) (canvas : Canvas) (t : Trace) :
        paintTrace { s with lsystem := l, canvas } t = s.paintTrace t := rfl
    have hclamp (l : LSystem) (canvas : Canvas) :
        clampedIterations { s with lsystem := l, canvas } = s.clampedIterations := rfl
    simp only [hpaint, hclamp, bind, Except.bind]
    cases LSystem.grow ⟨s.lsystem.turtle, s.rules, s.lsystem.registry⟩ s.input s.clampedIterations with
    | error fault => rfl
    | ok grown =>
      obtain ⟨strand, trace⟩ := grown
      dsimp only [painted]
      cases s.paintTrace trace ⟨generator, .empty⟩ with
      | error fault canvas => rfl
      | ok _ canvas => rfl

/-- Equal in all that the user sets, the order of the rules aside. -/
structure Alike (s₁ s₂ : Scene) : Prop where
  settings_eq : s₁.settings = s₂.settings
  look_eq : s₁.look = s₂.look
  input_eq : s₁.input = s₂.input
  iterations_eq : s₁.iterations = s₂.iterations
  turtle_eq : s₁.lsystem.turtle = s₂.lsystem.turtle
  rules_agree : ∀ key, s₁.rules.get? key = s₂.rules.get? key

theorem Alike.clampedIterations_eq (h : Alike s₁ s₂) : s₁.clampedIterations = s₂.clampedIterations := by
  rw [clampedIterations, clampedIterations, h.iterations_eq, h.settings_eq]

theorem Alike.painted_eq (h : Alike s₁ s₂) : s₁.painted = s₂.painted := by
  have hcall : s₁.paintCall = s₂.paintCall := by
    funext c
    rw [paintCall, paintCall, h.settings_eq, h.look_eq]
  funext generator trace
  rw [painted, painted, paintTrace, paintTrace, hcall]

theorem Alike.outcome_eq (h : Alike s₁ s₂) (hr : s₁.lsystem.registry = s₂.lsystem.registry) :
    s₁.outcome = s₂.outcome := by
  have hgrow (turtle : Turtle) (registry : Registry) (text : String) (count : Int) :
      LSystem.grow ⟨turtle, s₁.rules, registry⟩ text count =
        LSystem.grow ⟨turtle, s₂.rules, registry⟩ text count := by
    rw [LSystem.grow, LSystem.grow, Rules.derive_congr h.rules_agree]
  rw [Scene.outcome_eq, Scene.outcome_eq, hgrow, h.settings_eq, h.turtle_eq, h.input_eq,
    h.clampedIterations_eq, h.painted_eq, hr]

theorem derive_of_outcome {mesh : Mesh} {strand : Strand} (h : s.outcome = .ok (mesh, strand)) :
    s.rules.derive s.input s.clampedIterations = .ok strand := by
  rw [outcome_eq] at h
  obtain ⟨generator, -, h⟩ := bind_eq_ok.mp h
  obtain ⟨grown, hgrown, h⟩ := bind_eq_ok.mp h
  obtain ⟨painting, -, h⟩ := bind_eq_ok.mp h
  obtain ⟨derived, hderived, hgrown⟩ := bind_eq_ok.mp hgrown
  cases h
  cases hgrown
  exact hderived

/-- What a scene grows does not depend on how the scene came about: two histories that leave scenes
alike give the same fault, or the same mesh and the strand that the rules derive. -/
theorem outcome_eq_of_alike (h₁ : s₁.Reachable) (h₂ : s₂.Reachable) (h : Alike s₁ s₂) :
    s₁.outcome = s₂.outcome ∧ ∀ mesh strand, s₁.outcome = .ok (mesh, strand) →
      s₁.rules.derive s₁.input (min (max s₁.iterations s₁.settings.minIterations)
        s₁.settings.maxIterations) = .ok strand := by
  constructor
  · exact h.outcome_eq (h₁.registry_eq.trans h₂.registry_eq.symm)
  · intro mesh strand hs
    exact derive_of_outcome hs

/-- The second scene failed to grow, and got the same rules in the other order. -/
theorem outcome_eq_of_alike_after_faults : ∃ origin notice s₁ s₂,
    (new ⟨0, 100, 0, 10, 0, "__data__", 0, -0.2, -0.1, -0.2, 10, 0.8, 6⟩ = .ok (origin, notice) ∧
      [Act.setInput "AB", .setIterations 1, .clearRules, .addRule "A" "F", .addRule "B" "LA"].foldl
        act origin = s₁ ∧
      [Act.install "A" "B",
        .setTurtle ⟨⟨[], 90, 1, 1⟩, 90, .still, .still⟩, .setInput "XF", .setIterations 0, .grow,
        .load (.index 0), .setInput "AB", .setIterations 1, .clearRules, .addRule "B" "LA",
        .addRule "AB" "F", .addRule "A" "F"].foldl act origin = s₂ ∧
      Alike s₁ s₂ ∧ s₁.rules ≠ s₂.rules) ∧
    s₁.outcome = s₂.outcome ∧ ∀ mesh strand, s₁.outcome = .ok (mesh, strand) →
      s₁.rules.derive s₁.input (min (max s₁.iterations s₁.settings.minIterations)
        s₁.settings.maxIterations) = .ok strand := by
  have apply_to {settings : Settings} {origin : Scene} {notice : Notice} {acts₁ acts₂ : List Act}
      {s₁ s₂ : Scene} (h : new settings = .ok (origin, notice) ∧ acts₁.foldl act origin = s₁ ∧
        acts₂.foldl act origin = s₂ ∧ Alike s₁ s₂ ∧ s₁.rules ≠ s₂.rules) :=
    And.intro h (outcome_eq_of_alike ⟨settings, origin, notice, acts₁, h.1, h.2.1⟩
      ⟨settings, origin, notice, acts₂, h.1, h.2.2.1⟩ h.2.2.2.1)
  refine ⟨_, _, _, _, apply_to ⟨rfl, rfl, rfl, ⟨rfl, rfl, rfl, rfl, rfl, fun key => ?_⟩, ?_⟩⟩
  · change ((OrderedMap.empty.insert "A" "F").insert "B" "LA").get? key =
      ((OrderedMap.empty.insert "B" "LA").insert "A" "F").get? key
    simp only [OrderedMap.get?_insert]
    by_cases hb : "B" = key
    · subst hb
      rfl
    · rw [if_neg hb, if_neg hb]
  · decide

end PlantGrammar.Scene
