import PlantGrammar.Preset
import PlantGrammar.Scene.Canvas
import PlantGrammar.Settings

/-! # Organs of a plant

`F` draws a branch, `L` a leaf and `J` a flower. Each organ is drawn on the segment that the turtle
reports.
-/
namespace PlantGrammar

structure Appearance where
  branchColor : List Channel
  leafColor : List Channel
  flowerInnerColor : List Channel
  flowerOuterColor : List Channel
  leafType : LeafType
  leafSize : List Float
  leafRatio : Float
  flowerInnerRadius : Float
  flowerOuterRadius : Float
deriving Repr, DecidableEq, Inhabited

namespace Coordinates

/-- Difference of two points, all coordinates counting. A bare number meets any of them. -/
def minus (p q : Coordinates) : Except Fault (List Float) :=
  match p, q with
  | bare _, bare _ => .error .segmentShape
  | bare a, items ys => .ok (ys.map (a - ·))
  | items xs, bare b => .ok (xs.map (· - b))
  | items xs, items ys => difference xs ys

def shifted (p : Coordinates) (v : Vec) : Except Fault Vec :=
  match p with
  | bare a => .ok (Vec.add ⟨a, a⟩ v)
  | items xs => (·.add v) <$> Vec.ofSpread xs

end Coordinates

structure Stem where
  start : Coordinates
  startWidth : Float
  finish : Coordinates
  finishWidth : Float
deriving Repr, DecidableEq, Inhabited

inductive Organ where
  | branch
  | leaf
  | flower
deriving Repr, DecidableEq, Inhabited

namespace Organ

def symbol : Organ → String
  | branch => drawSymbol
  | leaf => "L"
  | flower => "J"

def ofSymbol? (s : String) : Option Organ := [leaf, flower, branch].find? fun o => o.symbol = s

def drawBranch (settings : Settings) (look : Appearance) (stem : Stem) : Painting Unit :=
  .shape (.line stem.start stem.startWidth stem.finish stem.finishWidth settings.branchDepth look.branchColor)

/-- The tip of a kite leaf, none on a stem without direction. -/
def leafTip? (look : Appearance) (stem : Stem) : Except Fault (Option Vec) := do
  match ← stem.finish.minus stem.start with
  | [dx, dy] =>
    let norm := Number.hypotenuse dx dy
    if norm == 0 || !norm.isFinite then return none
    match look.leafSize[1]? with
    | some size => some <$> stem.start.shifted (Vec.scale ⟨dx / norm, dy / norm⟩ size)
    | none => .error .missingItem
  | _ => .error .segmentShape

/-- A leaf stands at the start of the stem: a box turned at random, or a kite along the stem. -/
def drawLeaf (settings : Settings) (look : Appearance) (stem : Stem) : Painting Unit := do
  match look.leafType with
  | .box =>
    let rotation ← Painting.random
    .shape (.box stem.start (.items look.leafSize) rotation settings.leafDepth look.leafColor)
  | .kite =>
    let some tip ← ofResult (leafTip? look stem) | return
    .shape (.kite stem.start tip.coordinates (look.leafSize.headD 0) look.leafRatio settings.leafDepth
      look.leafColor)

/-- A flower stands at the end of the stem: a star and a disc before it. -/
def drawFlower (settings : Settings) (look : Appearance) (stem : Stem) : Painting Unit := do
  .shape (.star stem.finish look.flowerOuterRadius (look.flowerOuterRadius * settings.starInnerRatio)
    settings.starPoints settings.flowerOuterDepth look.flowerOuterColor)
  .shape (.disc stem.finish look.flowerInnerRadius settings.circleSegments settings.flowerInnerDepth
    look.flowerInnerColor)

def draw (settings : Settings) (look : Appearance) (stem : Stem) : Organ → Painting Unit
  | branch => drawBranch settings look stem
  | leaf => drawLeaf settings look stem
  | flower => drawFlower settings look stem

end Organ

def Call.stem (c : Call) : Stem := ⟨.items c.start, c.startWidth, .items c.finish, c.finishWidth⟩

end PlantGrammar
