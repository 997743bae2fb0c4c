import PlantGrammar.LSystem
import PlantGrammar.Mesh.Point
import PlantGrammar.Number.Rounding

/-! # Skeleton graphs

Recorded segments become a directed graph. Its nodes are the rounded end points; segments between
the same two nodes are one edge, which keeps the place of the first and the data of the last.
-/
namespace PlantGrammar

structure Segment where
  symbol : String
  start : Coordinates
  startWidth : Float
  finish : Coordinates
  finishWidth : Float
deriving Repr, DecidableEq, Inhabited

/-- A rounded point. Both zeros are stored as the positive one. -/
structure Site where
  x : Float
  y : Float
deriving Repr, DecidableEq, Inhabited

namespace Site

def unsignedZero (x : Float) : Float := if x == 0 then 0 else x

/-- Round a point to a number of decimals, which has to fit a signed word of 32 bits. -/
def ofPoint (decimals : Int) (p : Coordinates) : Except Fault Site := do
  let xs ← p.leading
  if decimals < -0x80000000 || 0x80000000 ≤ decimals then throw .decimalsRange
  let v ← Vec.ofPair xs
  let round x := unsignedZero (Number.roundToPlaces decimals x)
  return ⟨round v.x, round v.y⟩

def isNaN (s : Site) : Bool := s.x.isNaN || s.y.isNaN

def isFinite (s : Site) : Bool := s.x.isFinite && s.y.isFinite

/-- The same place. A site with a NaN is nowhere, so it differs from every site. -/
def same (s t : Site) : Bool :=
  !s.isNaN && s.x.toBits == t.x.toBits && s.y.toBits == t.y.toBits

end Site

structure Limb where
  symbol : String
  startWidth : Float
  finishWidth : Float
deriving Repr, DecidableEq, Inhabited

/-- Nodes in first-seen order, and edges as source number, target number and data in first-added
order. -/
structure Skeleton where
  nodes : Array Site
  edges : List (Nat × Nat × Limb)
deriving Repr, DecidableEq, Inhabited

namespace Skeleton

def empty : Skeleton := ⟨#[], []⟩

/-- Number of the node at a site, which is added if it is new. -/
def locate (g : Skeleton) (s : Site) : Nat × Skeleton :=
  match g.nodes.findIdx? (·.same s) with
  | some i => (i, g)
  | none => (g.nodes.size, { g with nodes := g.nodes.push s })

def placeEdge (source target : Nat) (limb : Limb) : List (Nat × Nat × Limb) → List (Nat × Nat × Limb)
  | [] => [(source, target, limb)]
  | e :: rest =>
    if e.1 = source ∧ e.2.1 = target then (source, target, limb) :: rest
    else e :: placeEdge source target limb rest

def addSegment (decimals : Int) (g : Skeleton) (e : Segment) : Except Fault Skeleton := do
  let source ← Site.ofPoint decimals e.start
  let target ← Site.ofPoint decimals e.finish
  let (i, g) := g.locate source
  let (j, g) := g.locate target
  return { g with edges := placeEdge i j ⟨e.symbol, e.startWidth, e.finishWidth⟩ g.edges }

def ofSegments (decimals : Int) (segments : List Segment) : Except Fault Skeleton :=
  segments.foldlM (addSegment decimals) empty

def edgeList (g : Skeleton) : List (Nat × Nat × Limb) :=
  (List.range g.nodes.size).flatMap fun i => g.edges.filter fun e => e.1 = i

def tips (g : Skeleton) : List Site :=
  (List.range g.nodes.size).filterMap fun i =>
    if g.edges.any fun e => e.1 = i then none else g.nodes[i]?

/-- Line width of an edge, at least a tenth. NaN stays. -/
def lineWidth (w : Float) : Float := if w < 0.1 then 0.1 else w

/-- A line as drawn: the end points that lie at a finite distance, and the width. -/
structure Line where
  points : List Site
  width : Float
deriving Repr, DecidableEq

def isInfiniteLoop (g : Skeleton) : Nat × Nat × Limb → Bool
  | (i, j, _) => i = j && (g.nodes[i]?).any fun s => !s.isFinite

/-- The line of each edge. A loop needs a place, so it fails at an infinitely far node. -/
def lines (g : Skeleton) : Except Fault (List Line) :=
  if g.edges.any g.isInfiniteLoop then .error .infiniteLoop
  else .ok (g.edgeList.map fun (i, j, limb) =>
    ⟨([g.nodes[i]?, g.nodes[j]?].filterMap id).filter Site.isFinite, lineWidth limb.startWidth⟩)

end Skeleton

def Call.segment (c : Call) : Segment :=
  ⟨c.label, .items c.start, c.startWidth, .items c.finish, c.finishWidth⟩

/-- The segments of a number of runs of an L-system; with `afresh` each run starts a new record. -/
def LSystem.record (l : LSystem) (axiomText : String) (count : Int) (afresh : Bool) (runs : Nat) :
    Except Fault (List Segment) :=
  (List.range runs).foldlM (fun recorded _ => do
    let (_, trace) ← l.grow axiomText count
    match trace.fault? with
    | some fault => .error fault
    | none => return (if afresh then [] else recorded) ++ trace.calls.toList.map Call.segment) []

def Skeleton.defaultTitle : String := "Plant skeleton"

def Skeleton.defaultDecimals : Int := 6

end PlantGrammar
