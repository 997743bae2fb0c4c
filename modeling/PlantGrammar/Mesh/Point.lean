import PlantGrammar.Fault
import PlantGrammar.Number.Hypotenuse

/-! # Points and vectors of the plane

Points come as coordinates of any number. Only the first two count, and a single coordinate stands
for both wherever it meets a pair in arithmetic.
-/
namespace PlantGrammar

inductive Coordinates where
  | bare (x : Float)
  | items (xs : List Float)
deriving Repr, DecidableEq, Inhabited

namespace Coordinates

def items? : Coordinates → Except Fault (List Float)
  | bare _ => .error .scalarPoint
  | items xs => .ok xs

/-- The coordinates that count: at most two. -/
def leading (p : Coordinates) : Except Fault (List Float) := (·.take 2) <$> p.items?

end Coordinates

structure Vec where
  x : Float
  y : Float
deriving Repr, DecidableEq, Inhabited

namespace Vec

def add (p q : Vec) : Vec := ⟨p.x + q.x, p.y + q.y⟩
def sub (p q : Vec) : Vec := ⟨p.x - q.x, p.y - q.y⟩
def scale (p : Vec) (k : Float) : Vec := ⟨p.x * k, p.y * k⟩
def coordinates (p : Vec) : Coordinates := .items [p.x, p.y]

def ofPair : List Float → Except Fault Vec
  | [x, y] => .ok ⟨x, y⟩
  | _ => .error .pointShape

/-- Two coordinates, or one for both. -/
def ofSpread : List Float → Except Fault Vec
  | [x, y] => .ok ⟨x, y⟩
  | [v] => .ok ⟨v, v⟩
  | _ => .error .pointShape

def ofPoint (p : Coordinates) : Except Fault Vec := p.leading >>= ofPair

end Vec

/-- Difference by coordinate. One coordinate meets any number of others. -/
def difference : List Float → List Float → Except Fault (List Float)
  | [a], ys => .ok (ys.map (a - ·))
  | xs, [b] => .ok (xs.map (· - b))
  | xs, ys => if xs.length = ys.length then .ok (xs.zipWith (· - ·) ys) else .error .pointShape

/-- Unit direction, unit normal and length of a segment with a direction. `base` is its first
point as given and `origin` the same as a vector. -/
structure Frame where
  base : List Float
  origin : Vec
  direction : Vec
  normal : Vec
  length : Float
deriving Repr, DecidableEq, Inhabited

/-- The frame of a segment, none when its length is zero or not finite. -/
def Frame.of (start finish : Coordinates) : Except Fault (Option Frame) := do
  let base ← start.leading
  let finish ← finish.leading
  match ← difference finish base with
  | [dx, dy] =>
    let length := Number.hypotenuse dx dy
    if !length.isFinite || length == 0 then return none
    let direction : Vec := ⟨dx / length, dy / length⟩
    return some ⟨base, ← Vec.ofSpread base, direction, ⟨-direction.y, direction.x⟩, length⟩
  | _ => .error .segmentShape

end PlantGrammar
