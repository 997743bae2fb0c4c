import PlantGrammar.Mesh.Shape
import PlantGrammar.Random

/-! # Canvases

A canvas is what drawing a plant changes: its mesh, and the generator of box rotations.
-/
namespace PlantGrammar

structure Canvas where
  generator : Generator
  mesh : Mesh
deriving Repr, DecidableEq, Inhabited

/-- A computation on a canvas. When it fails, the canvas keeps what was drawn before. -/
abbrev Painting := EStateM Fault Canvas

namespace Painting

def shape (d : Drawing Unit) : Painting Unit := fun c =>
  match d c.mesh with
  | .ok _ mesh => .ok () { c with mesh }
  | .error fault mesh => .error fault { c with mesh }

def random : Painting Float :=
  modifyGet fun c => (c.generator.nextFloat.1, { c with generator := c.generator.nextFloat.2 })

end Painting
end PlantGrammar
