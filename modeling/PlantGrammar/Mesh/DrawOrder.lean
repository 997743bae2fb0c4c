import PlantGrammar.Mesh
import PlantGrammar.Number.Single

/-! # Drawing order

A mesh is drawn from arrays in single precision. Triangles with the larger mean depth come first,
those without a mean depth last, and equal ones in mesh order.
-/
namespace PlantGrammar

/-- Positions in single precision, colors as unsigned words, triangles by vertex index. -/
structure MeshArrays where
  positions : Array Position
  colors : Array Nat
  triangles : List (Nat × Nat × Nat)
deriving Repr, DecidableEq

/-- A triangle ready to draw: its corners and the channels of its first vertex. -/
structure Facet where
  corners : List Position
  color : List Float
deriving Repr, DecidableEq

def Position.toSingle (p : Position) : Position :=
  ⟨Number.toSingle p.x, Number.toSingle p.y, Number.toSingle p.depth⟩

namespace Mesh

/-- Group a flat list by three. What is left over is dropped, and `arrays` refuses it. -/
def triples {α : Type} (xs : Array α) : List (α × α × α) :=
  (List.range (xs.size / 3)).filterMap fun k => do
    return (← xs[3 * k]?, ← xs[3 * k + 1]?, ← xs[3 * k + 2]?)

def arrays (m : Mesh) : Except Fault MeshArrays := do
  let colors ← m.colors.mapM word32
  let indices ← m.indices.mapM word32
  if m.indices.size % 3 ≠ 0 then throw .looseCorner
  return ⟨m.positions.map Position.toSingle, colors, triples indices⟩

end Mesh

namespace MeshArrays

def facet (a : MeshArrays) : Nat × Nat × Nat → Except Fault Facet
  | (i, j, k) =>
    match a.positions[i]?, a.positions[j]?, a.positions[k]?, a.colors[i]? with
    | some p, some q, some r, some color => .ok ⟨[p, q, r], Color.levels color⟩
    | _, _, _, _ => .error .vertexRange

end MeshArrays

/-- Mean depth of three corners, summed from the left, every step in single precision. -/
def meanDepth (corners : List Position) : Float :=
  Number.toSingle
    ((corners.map Position.depth).foldl (fun sum depth => Number.toSingle (sum + depth)) 0 / 3)

/-- Rank of a number among all numbers, none for NaN. Both zeros have rank zero. -/
def depthRank (depth : Float) : Option Int :=
  if depth.isNaN then none
  else
    let bits := depth.toBits.toNat
    if Number.signWeight ≤ bits then some (-(bits - Number.signWeight : Nat)) else some bits

/-- Whether a triangle with the first rank may be drawn before one with the second. -/
def drawnBefore : Option Int → Option Int → Bool
  | some a, some b => b ≤ a
  | none, some _ => false
  | _, none => true

def Mesh.facets (m : Mesh) : Except Fault (List Facet) := do
  let a ← m.arrays
  let facets ← a.triangles.mapM a.facet
  let ranked := facets.map fun f => (depthRank (meanDepth f.corners), f)
  return (ranked.mergeSort fun s t => drawnBefore s.1 t.1).map Prod.snd

/-- The triangles of a mesh as one collection to draw; without a triangle there is none. -/
def Mesh.collection? (m : Mesh) : Except Fault (Option (List Facet)) := do
  let facets ← m.facets
  return if facets.isEmpty then none else some facets

end PlantGrammar
