import PlantGrammar.Mesh
import PlantGrammar.Number.Angle

/-! # Flat shapes

Every shape is checked before its first vertex is appended.
-/
namespace PlantGrammar.Drawing

/-- Tapered quad along a segment, with a width at each end. -/
def line (start : Coordinates) (startWidth : Float) (finish : Coordinates) (finishWidth depth : Float)
    (color : List Channel) : Drawing Unit := do
  let some f ← ofResult (Frame.of start finish) | return
  let p := f.origin
  let q := p.add (f.direction.scale f.length)
  let packed ← ofResult (Color.pack color)
  let near := (f.normal.scale startWidth).scale 0.5
  let far := (f.normal.scale finishWidth).scale 0.5
  let a ← vertex (p.add near).coordinates depth packed
  let b ← vertex (p.sub near).coordinates depth packed
  let c ← vertex (q.sub far).coordinates depth packed
  let d ← vertex (q.add far).coordinates depth packed
  triangle a b c
  triangle a c d

/-- Kite along a segment, widest at `ratio` of its length. -/
def kite (start finish : Coordinates) (width ratio depth : Float) (color : List Channel) :
    Drawing Unit := do
  let some f ← ofResult (Frame.of start finish) | return
  let along := f.direction.scale f.length
  let waist := f.origin.add (along.scale ratio)
  let side := (f.normal.scale width).scale 0.5
  let packed ← ofResult (Color.pack color)
  let tail ← vertex (.items f.base) depth packed
  let left ← vertex (waist.add side).coordinates depth packed
  let tip ← vertex (f.origin.add along).coordinates depth packed
  let right ← vertex (waist.sub side).coordinates depth packed
  triangle tail left tip
  triangle tail tip right

/-- Corners of a box of the given half size, turned by an angle in radians. -/
def boxCorners (half : Vec) (rotation : Float) (center : Vec) : List Vec :=
  let c := rotation.cos
  let s := rotation.sin
  [(-1, -1), (1, -1), (1, 1), (-1, 1)].map fun (u, v) =>
    let x := u * half.x
    let y := v * half.y
    Vec.add ⟨x * c + y * -s, x * s + y * c⟩ center

def box (center size : Coordinates) (rotation depth : Float) (color : List Channel) :
    Drawing Unit := do
  let half ← ofResult (size.leading >>= Vec.ofSpread)
  let middle ← ofResult (center.leading >>= Vec.ofSpread)
  let packed ← ofResult (Color.pack color)
  let first := (← get).vertexCount
  (boxCorners (half.scale 0.5) rotation middle).forM fun p =>
    discard (vertex p.coordinates depth packed)
  triangle first (first + 1 : Nat) (first + 2 : Nat)
  triangle first (first + 2 : Nat) (first + 3 : Nat)

/-- Points around a center at equal angles, the `i`-th at the `i`-th radius. -/
def ring (center : Vec) (radii : List Float) : List Vec :=
  let turn := 2 * Number.pi / radii.length.toFloat
  radii.mapIdx fun i r =>
    let theta := i.toFloat * turn
    Vec.add ⟨theta.cos * r, theta.sin * r⟩ center

def ringFan (center : Coordinates) (radii : List Float) (depth : Float) (color : List Channel) :
    Drawing Unit := do
  let middle ← ofResult (center.leading >>= Vec.ofSpread)
  let packed ← ofResult (Color.pack color)
  fan center ((ring middle radii).map Vec.coordinates) depth packed

def naturalCount (n : Int) : Except Fault Nat :=
  if n < 0 then .error .negativeCount else .ok n.toNat

def disc (center : Coordinates) (radius : Float) (segments : Int) (depth : Float)
    (color : List Channel) : Drawing Unit := do
  let n ← ofResult (naturalCount segments)
  ringFan center (List.replicate n radius) depth color

/-- Radii of a star, outer and inner in turn. -/
def starRadii (outer inner : Float) (points : Nat) : List Float :=
  (List.replicate points [outer, inner]).flatten

/-- Star around a center, with `points` tips. -/
def star (center : Coordinates) (outer inner : Float) (points : Int) (depth : Float)
    (color : List Channel) : Drawing Unit := do
  let n ← ofResult (naturalCount points)
  ringFan center (starRadii outer inner n) depth color

end PlantGrammar.Drawing
