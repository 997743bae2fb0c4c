import PlantGrammar.CommandLine.Markup
import PlantGrammar.Preset.Catalogue
import PlantGrammar.Scene.Organ

/-! # Plant scenes

A scene holds settings, one L-system, the rules and looks of a plant, and the canvas drawn from
them. A symbol that names no organ only steers the turtle or waits for a rule.
-/
namespace PlantGrammar

structure Scene where
  settings : Settings
  lsystem : LSystem
  look : Appearance
  presetKey : PresetKey
  input : String
  iterations : Int
  rules : Rules
  canvas : Canvas
  strand : Strand
deriving Repr, DecidableEq, Inhabited

inductive Notice where
  | loaded (preset : String)
  | ignored (key body : String)
  | generated (symbols vertices triangles : Nat)
deriving Repr, DecidableEq

/-- What is told of a refused rule, without the tags around it. -/
def Notice.refusal (key body : String) : String :=
  "Ignoring rule " ++ Text.quoted key ++ " -> " ++ Text.quoted body ++ ": invalid key or body."

def Notice.text : Notice → String
  | loaded name => "Loaded preset [bold cyan]" ++ name ++ "[/bold cyan]"
  | ignored key body => "[yellow]" ++ refusal key body ++ "[/yellow]"
  | generated symbols vertices triangles =>
    s!"Generated {symbols} symbols -> {vertices} vertices, {triangles} triangles"

/-- Texts of characters from some ranges: single ones, or as many as there are but one at least. -/
structure RulePattern where
  ranges : List (Char × Char)
  repeats : Bool

namespace RulePattern

/-- A pattern in writing. -/
def text (p : RulePattern) : String :=
  let written := p.ranges.flatMap fun r => if r.1 = r.2 then [r.1] else [r.1, '-', r.2]
  "^[" ++ String.ofList written ++ (if p.repeats then "]+$" else "]$")

def accepts (p : RulePattern) (text : String) : Bool :=
  let cs := text.toList
  (if p.repeats then !cs.isEmpty else cs.length = 1) &&
    cs.all fun c => p.ranges.any fun r => r.1 ≤ c && c ≤ r.2

/-- One letter. -/
def key : RulePattern := ⟨[('a', 'z'), ('A', 'Z')], false⟩

/-- Letters, plus and minus signs. -/
def body : RulePattern := ⟨[('a', 'z'), ('A', 'Z'), ('+', '+'), ('-', '-')], true⟩

end RulePattern

def ruleKeyPattern : String := RulePattern.key.text
def ruleBodyPattern : String := RulePattern.body.text

example : ruleKeyPattern = "^[a-zA-Z]$" ∧ ruleBodyPattern = "^[a-zA-Z+-]+$" := by decide

/-- Whether a user may add a rule. -/
def isUserRule (key body : String) : Bool := RulePattern.key.accepts key && RulePattern.body.accepts body

namespace Scene

def apply (s : Scene) (key : PresetKey) (p : Preset) : Scene :=
  let color (channels : List Int) := channels.map Channel.integer
  { s with
    presetKey := key
    input := p.input
    iterations := p.iterations
    look :=
      { branchColor := color p.branchColor
        leafColor := color p.leafColor
        flowerInnerColor := color p.flowerInnerColor
        flowerOuterColor := color p.flowerOuterColor
        leafType := p.leafType
        leafSize := p.leafSize
        leafRatio := p.leafRatio
        flowerInnerRadius := p.flowerInnerRadius
        flowerOuterRadius := p.flowerOuterRadius }
    lsystem.turtle := p.turtle
    rules := p.rules }

def load (s : Scene) (key : PresetKey) : Except Fault (Scene × Notice) := do
  let p ← Preset.find key
  return (s.apply key p, .loaded p.name)

/-- The L-system of a scene, with the three organs registered. -/
def initialSystem : LSystem :=
  let l := LSystem.ofCursor ⟨[0, -100], 90, 20, 40⟩
  let l := { l with turtle.deltaAngle := 20 }
  [Organ.leaf, .flower, .branch].foldl (fun l o => l.register o.symbol o.symbol) l

def initialLook : Appearance :=
  let white := List.replicate 4 (Channel.integer 255)
  ⟨white, white, white, white, .box, [1, 1], 0.5, 1, 2⟩

/-- A scene that shows the default preset of its settings. -/
def new (settings : Settings) : Except Fault (Scene × Notice) := do
  let generator ← Generator.ofSeed settings.seed
  let bare : Scene :=
    { settings
      lsystem := initialSystem
      look := initialLook
      presetKey := .index settings.defaultPreset
      input := ""
      iterations := 0
      rules := .empty
      canvas := ⟨generator, .empty⟩
      strand := .empty }
  bare.load (.index settings.defaultPreset)

/-- Add a rule if it is valid. The notice tells of a refusal. -/
def addRule (s : Scene) (key body : String) : Scene × Option Notice :=
  if isUserRule key body then ({ s with rules := s.rules.insert key body }, none)
  else (s, some (.ignored key body))

/-- Add a rule if it is valid, and tell the console of a refusal. The answer is whether the rule was
added; there is none if the console cannot read the notice. -/
def offerRule (canonical : List Char → List Char) (key body : String) :
    EStateM CommandLine.Unopened Scene Bool := fun s =>
  match s.addRule key body with
  | (s, none) => .ok true s
  | (s, some notice) =>
    match CommandLine.readMarkup canonical notice.text with
    | .ok () => .ok false s
    | .error unopened => .error unopened s

def clearRules (s : Scene) : Scene := { s with rules := .empty }

/-- Iterations that a generation runs: those asked for, within the limits of the settings. The
upper limit wins over the lower. -/
def clampedIterations (s : Scene) : Int :=
  min (max s.iterations s.settings.minIterations) s.settings.maxIterations

def paintCall (s : Scene) (c : Call) : Painting Unit :=
  match Organ.ofSymbol? c.symbol with
  | some organ => organ.draw s.settings s.look c.stem
  | none => pure ()

/-- Draw the calls of a trace; the fault that ended the walk comes after them. -/
def paintTrace (s : Scene) (t : Trace) : Painting Unit := do
  t.calls.forM s.paintCall
  match t.fault? with
  | some fault => throw fault
  | none => pure ()

def installRules (s : Scene) : LSystem :=
  s.rules.entries.foldl (fun l e => l.addRule e.1 e.2) s.lsystem.clearRules

/-- Rebuild the mesh from the input, the rules and the settings. The generator starts from the seed
again, so equal inputs give equal meshes. -/
def grow : EStateM Fault Scene Notice := fun s =>
  match Generator.ofSeed s.settings.seed with
  | .error fault => .error fault s
  | .ok generator =>
    let s := { s with lsystem := s.installRules, canvas := ⟨generator, .empty⟩ }
    match s.lsystem.grow s.input s.clampedIterations with
    | .error fault => .error fault s
    | .ok (strand, trace) =>
      match s.paintTrace trace s.canvas with
      | .error fault canvas => .error fault { s with canvas }
      | .ok _ canvas =>
        .ok (.generated strand.length canvas.mesh.vertexCount canvas.mesh.triangleCount)
          { s with canvas, strand }

def drawOrgan (organ : Organ) (stem : Stem) : EStateM Fault Scene Unit := fun s =>
  match organ.draw s.settings s.look stem s.canvas with
  | .error fault canvas => .error fault { s with canvas }
  | .ok _ canvas => .ok () { s with canvas }

end Scene
end PlantGrammar
