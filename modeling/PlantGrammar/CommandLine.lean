import PlantGrammar.CommandLine.Console
import PlantGrammar.CommandLine.Markup
import PlantGrammar.CommandLine.Request
import PlantGrammar.FilePath
import PlantGrammar.Mesh.DrawOrder
import PlantGrammar.Scene

/-! # The command line

Running a request prints on the console, logs, and saves pictures. What draws on a canvas, writes files
and shows log lines is no part of this library, so it is a parameter of every run.
-/
namespace PlantGrammar.CommandLine

structure Picture where
  output : String
  dpi : Int
  title : String
  mesh : Mesh

/-- What a run calls on to save a picture and to show a log line. Both may fail. -/
structure Surroundings where
  save : Picture → Except Fault Unit
  log : String → Except Fault Unit

namespace Surroundings

/-- Pictures and lines are only put on record. -/
def recording : Surroundings := ⟨fun _ => .ok (), fun _ => .ok ()⟩

/-- The triangles of a picture are drawn in their order by `make`, which also writes the file. The
console reads the markup of a line. -/
def drawing (make : Picture → Option (List Facet) → Except Fault Unit)
    (canonical : List Char → List Char) : Surroundings where
  save p := do make p (← p.mesh.collection?)
  log line := (readMarkup canonical line).mapError fun unopened => .unopenedTag unopened.name

end Surroundings

structure Report where
  printed : String
  log : List String
  notices : List Notice
  pictures : List Picture

inductive Ending where
  | finished (code : Nat)
  | misused (error : UsageError)
  | unsettled (issues : List Issue)
  | broken (fault : Fault)

/-- Status with which a misuse ends; asking for help is none. -/
def UsageError.status : UsageError → Nat
  | help => 0
  | _ => 2

def Report.empty : Report := ⟨"", [], [], []⟩

def presetTable : String :=
  table "Presets"
    [(.right, "#"), (.left, "Name"), (.left, "Axiom"), (.left, "Rules"), (.right, "Iterations")]
    (Preset.catalogue.mapIdx fun i p =>
      let rules := ", ".intercalate (p.rules.entries.map fun e => e.1 ++ " -> " ++ e.2)
      [toString i, p.name, p.input, if rules.isEmpty then "-" else rules, toString p.iterations])

/-- The text derived from an axiom. A later rule for a key replaces an earlier one. -/
def expansion (axiomText : String) (rules : List (String × String)) (iterations : Int) :
    Except Fault String :=
  Strand.text <$> Rules.derive (.ofList rules) axiomText iterations

/-- File of a preset's picture when none is given. -/
def defaultOutput (settings : Settings) (name : String) : String :=
  FilePath.inDirectory settings.dataDir
    (String.ofList (name.toLower.toList.map fun c => if c = ' ' then '_' else c) ++ ".png")

/-- File of the picture that is asked for. -/
def RenderRequest.outputFor (request : RenderRequest) (settings : Settings) (name : String) : String :=
  match request.output with
  | some path => FilePath.normalize path
  | none => defaultOutput settings name

/-- Resolution that is asked for. A zero asks for that of the settings. -/
def RenderRequest.dpiFor (request : RenderRequest) (settings : Settings) : Int :=
  match request.dpi with
  | some dpi => if dpi = 0 then settings.dpi else dpi
  | none => settings.dpi

/-- A run in progress keeps its report when it fails. -/
abbrev Run := EStateM Fault Report

/-- Put a notice on record. What a scene tells while it is loaded and grown can always be read. -/
def notify (n : Notice) : Run Unit := modify fun r => { r with notices := r.notices ++ [n] }

/-- Save a picture and say so. -/
def deliver (around : Surroundings) (p : Picture) : Run Unit := do
  ofResult (around.save p)
  modify fun r => { r with pictures := r.pictures ++ [p] }
  let line := "[green]Saved render to " ++ p.output ++ "[/green]"
  ofResult (around.log line)
  modify fun r => { r with log := r.log ++ [line] }

def render (around : Surroundings) (settings : Settings) (request : RenderRequest) : Run Unit := do
  let (scene, notice) ← ofResult (Scene.new settings)
  notify notice
  let (key, scene) ← match request.preset with
    | .value key => do
      let (scene, notice) ← ofResult (scene.load key)
      notify notice
      pure (key, scene)
    | .empty => throw .emptyPreset
    | .absent => pure (.index settings.defaultPreset, scene)
  let preset ← ofResult (Preset.find key)
  let scene ← match request.iterations with
    | .value iterations => pure { scene with iterations }
    | .empty => throw .emptyIterations
    | .absent => pure scene
  match Scene.grow scene with
  | .error fault _ => throw fault
  | .ok notice scene =>
    notify notice
    deliver around
      { output := request.outputFor settings preset.name
        dpi := request.dpiFor settings
        title := preset.name
        mesh := scene.canvas.mesh }

def perform (around : Surroundings) (settings : Settings) : Request → Run Unit
  | .presets => modify fun r => { r with printed := presetTable }
  | .expand axiomText rules iterations => do
    let rules ← ofResult (rules.mapM fun rule => rule.elim (throw .emptyRule) pure)
    let count ← ofResult (iterations.elim (throw .emptyIterations) pure)
    let text ← ofResult (expansion axiomText rules count)
    modify fun r => { r with printed := printed text }
  | .render request => render around settings request

/-- Whether a fault breaks a run off. Only a value that is out of place does not. -/
def breaks : Fault → Bool
  | .deadNode _ | .scalarPoint | .missingItem | .vertexRange => true
  | .segmentShape | .emptyIterations | .emptyPreset | .ruleText _ => true
  | .infiniteChannel | .wordRange | .decimalsRange | .infiniteLoop => true
  | .unwritable _ | .unopenedTag _ => true
  | _ => false

/-- Run the words of a command line. A fault is logged and ends the run with code one, unless it
breaks the run off. -/
def runIn (around : Surroundings) (words : List String) (environment : List (String × String)) :
    Ending × Report :=
  match readRequest words with
  | .error e => (.misused e, .empty)
  | .ok request =>
    match (Settings.validate [] environment).toExcept with
    | .error issues => (.unsettled issues, .empty)
    | .ok settings =>
      match perform around settings request .empty with
      | .ok _ report => (.finished 0, report)
      | .error fault report =>
        if breaks fault then (.broken fault, report)
        else
          let line := "[red]" ++ escapeMarkup fault.message ++ "[/red]"
          match around.log line with
          | .ok _ => (.finished 1, { report with log := report.log ++ [line] })
          | .error fault => (.broken fault, report)

/-- Run the words of a command line, with its pictures and lines put on record. -/
def run : List String → List (String × String) → Ending × Report := runIn .recording

end PlantGrammar.CommandLine
