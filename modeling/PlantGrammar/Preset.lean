import PlantGrammar.Validation
import PlantGrammar.LSystem

/-! # Presets

A preset is an axiom with its rules and every turtle and appearance setting of one plant.
-/
namespace PlantGrammar

inductive LeafType where
  | box
  | kite
deriving Repr, DecidableEq, Inhabited

namespace LeafType

def all : List LeafType := [box, kite]

def number : LeafType → Nat
  | box => 0
  | kite => 1

def name : LeafType → String
  | box => "BOX"
  | kite => "KITE"

def ofNumber? (n : Int) : Option LeafType := all.find? fun t => (t.number : Int) = n

end LeafType

structure Preset where
  name : String
  position : List Float
  width : Float
  length : Float
  angle : Float
  deltaAngle : Float
  input : String
  rules : Rules
  iterations : Int
  branchColor : List Int
  leafColor : List Int
  flowerInnerColor : List Int
  flowerOuterColor : List Int
  leafType : LeafType
  leafSize : List Float
  leafRatio : Float
  flowerInnerRadius : Float
  flowerOuterRadius : Float
  widthGrowth : Growth
  lengthGrowth : Growth
deriving Repr, DecidableEq, Inhabited

namespace Preset
open Validated Raw

def positive (raw : Raw) : Validated Float := raw.readFloat.ensure (0 < ·) .greaterThan

def natural (raw : Raw) : Validated Int := raw.readInt.ensure (0 ≤ ·) .greaterThanEqual

/-- A ratio from zero to one; the upper bound is checked first. -/
def ratio (raw : Raw) : Validated Float :=
  (raw.readFloat.ensure (· ≤ 1) .lessThanEqual).ensure (0 ≤ ·) .greaterThanEqual

def pair (raw : Raw) : Validated (List Float) := raw.readTuple readFloat 2

def color (raw : Raw) : Validated (List Int) := raw.readTuple readInt 4

def growth (fields : Fields) (law parameter : String) : Validated Growth :=
  Growth.mk <$> fields.optional law (readChoice GrowthLaw.ofNumber?) .constant
    <*> fields.optional parameter readFloat 0

def validate (fields : Fields) : Validated Preset :=
  Preset.mk
    <$> fields.required "name" readString
    <*> fields.optional "position" pair [0, -80]
    <*> fields.required "width" positive
    <*> fields.required "length" positive
    <*> fields.optional "angle" readFloat 90
    <*> fields.required "delta_angle" readFloat
    <*> fields.required "input" readString
    <*> fields.optional "rules" readTexts .empty
    <*> fields.required "iter" natural
    <*> fields.required "branch_color" color
    <*> fields.required "leaf_color" color
    <*> fields.optional "flower_inner_color" color [235, 207, 52, 255]
    <*> fields.optional "flower_outer_color" color [235, 52, 171, 255]
    <*> fields.optional "leaf_type" (readChoice LeafType.ofNumber?) .kite
    <*> fields.required "leaf_size" pair
    <*> fields.optional "leaf_ratio" ratio 0.5
    <*> fields.optional "flower_inner_radius" readFloat 3
    <*> fields.optional "flower_outer_radius" readFloat 6
    <*> growth fields "width_changer_type" "width_changer_param"
    <*> growth fields "length_changer_type" "length_changer_param"

def turtle (p : Preset) : Turtle :=
  ⟨⟨p.position, p.angle, p.width, p.length⟩, p.deltaAngle, p.widthGrowth, p.lengthGrowth⟩

/-- The L-system of a preset, nothing registered. -/
def system (p : Preset) : LSystem := ⟨p.turtle, p.rules, .empty⟩

end Preset

inductive PresetKey where
  | index (i : Int)
  | name (text : String)
deriving Repr, DecidableEq, Inhabited

end PlantGrammar
