import PlantGrammar.Preset

/-! # Settings

Settings come from named arguments and, where none is given, from environment variables that carry
the prefix `PLANTGEN_`. The letter case of a name is free.
-/
namespace PlantGrammar

structure Settings where
  seed : Int
  dpi : Int
  minIterations : Int
  maxIterations : Int
  defaultPreset : Int
  dataDir : String
  branchDepth : Float
  leafDepth : Float
  flowerOuterDepth : Float
  flowerInnerDepth : Float
  starPoints : Int
  starInnerRatio : Float
  circleSegments : Int
deriving Repr, DecidableEq, Inhabited

namespace Settings
open Validated Raw

def fieldNames : List String :=
  ["seed", "dpi", "min_iterations", "max_iterations", "default_preset", "data_dir", "branch_depth",
    "leaf_depth", "flower_outer_depth", "flower_inner_depth", "star_points", "star_inner_ratio",
    "circle_segments"]

def defaultSeed : Int := 42
def defaultDpi : Int := 300

def variableStem : String := "plantgen_"

/-- The fields that environment variables give, as text; of two spellings the later counts. -/
def fieldsOfEnvironment (environment : List (String × String)) : Fields :=
  fieldNames.filterMap fun name =>
    (environment.reverse.find? fun v => v.1.toLower = variableStem ++ name).map fun v =>
      (name, .text v.2)

def above (bound : Int) (raw : Raw) : Validated Int := raw.readInt.ensure (bound < ·) .greaterThan

/-- The fields that arguments give. An argument may spell its field in any letter case; the exact
spelling wins over another, and an earlier one over a later. -/
def fieldsOfArguments (arguments : Fields) : Fields :=
  fieldNames.filterMap fun name =>
    ((arguments.get? name).or
      ((arguments.find? fun e => e.1.toLower = name).map Prod.snd)).map (name, ·)

def checkNames (arguments : Fields) : Validated Unit :=
  match arguments.filter fun e => !fieldNames.contains e.1.toLower with
  | [] => valid ()
  | unknown => invalid (unknown.map fun e => ⟨[e.1], .extraForbidden⟩)

def defaultDataDir : String := "__data__"

/-- Arguments win over the environment. Unknown variables are ignored, unknown arguments are not. -/
def validate (arguments : Fields) (environment : List (String × String)) :
    Validated Settings :=
  let fields : Fields := fieldsOfArguments arguments ++ fieldsOfEnvironment environment
  (fun s _ => s) <$> (Settings.mk
    <$> fields.optional "seed" readInt defaultSeed
    <*> fields.optional "dpi" (above 0) defaultDpi
    <*> fields.optional "min_iterations" Preset.natural 0
    <*> fields.optional "max_iterations" Preset.natural 10
    <*> fields.optional "default_preset" Preset.natural 0
    <*> fields.optional "data_dir" readPath defaultDataDir
    <*> fields.optional "branch_depth" readFloat 0
    <*> fields.optional "leaf_depth" readFloat (-0.2)
    <*> fields.optional "flower_outer_depth" readFloat (-0.1)
    <*> fields.optional "flower_inner_depth" readFloat (-0.2)
    <*> fields.optional "star_points" (above 2) 10
    <*> fields.optional "star_inner_ratio" Preset.positive 0.8
    <*> fields.optional "circle_segments" (above 2) 6)
    <*> checkNames arguments

end Settings
end PlantGrammar
