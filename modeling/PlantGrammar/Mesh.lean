import PlantGrammar.Mesh.Point
import PlantGrammar.Mesh.Color

/-! # Triangle meshes

A mesh grows at its end only: vertices with a depth and a packed color, and triangles as triples of
vertex indices in one flat list. A drawing is a computation on a mesh; when it fails, the mesh
keeps what was appended before.
-/
namespace PlantGrammar

structure Position where
  x : Float
  y : Float
  depth : Float
deriving Repr, DecidableEq, Inhabited

structure Mesh where
  positions : Array Position
  colors : Array Int
  indices : Array Int
deriving Repr, DecidableEq, Inhabited

abbrev Drawing := EStateM Fault Mesh

namespace Mesh

def empty : Mesh := ⟨#[], #[], #[]⟩

def vertexCount (m : Mesh) : Nat := m.positions.size

def triangleCount (m : Mesh) : Nat := m.indices.size / 3

/-- One mesh after the other, the indices of the second shifted past the vertices of the first. -/
def append (m n : Mesh) : Mesh :=
  ⟨m.positions ++ n.positions, m.colors ++ n.colors,
    m.indices ++ n.indices.map (· + (m.vertexCount : Int))⟩

end Mesh

namespace Drawing

def clear : Drawing Unit := set Mesh.empty

def vertex (point : Coordinates) (depth : Float) (color : Int) : Drawing Nat := do
  let p ← ofResult (Vec.ofPoint point)
  modifyGet fun m =>
    (m.vertexCount, { m with positions := m.positions.push ⟨p.x, p.y, depth⟩, colors := m.colors.push color })

def triangle (a b c : Int) : Drawing Unit :=
  modify fun m => { m with indices := m.indices ++ #[a, b, c] }

/-- Triangles from a center around a closed polygon. -/
def fan (center : Coordinates) (rim : List Coordinates) (depth : Float) (color : Int) : Drawing Unit := do
  let hub ← vertex center depth color
  let first := (← get).vertexCount
  rim.forM fun point => discard (vertex point depth color)
  let count := rim.length
  (List.range count).forM fun i =>
    triangle hub (first + i : Nat) (first + (i + 1) % count : Nat)

end Drawing
end PlantGrammar
