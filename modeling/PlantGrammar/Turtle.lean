import PlantGrammar.Number.Angle
import PlantGrammar.OrderedMap
import PlantGrammar.Turtle.Growth

/-! # The turtle

A turtle walks a string of symbols once, from left to right. It carries a cursor and a stack of
saved cursors, and reports a call for every symbol that is registered: a step forward reports its
own segment, any other symbol the last completed one. Reporting never changes the walk.
-/
namespace PlantGrammar

def drawSymbol : String := "F"
def moveSymbol : String := "f"
def leftSymbol : String := "-"
def rightSymbol : String := "+"
def pushSymbol : String := "["
def popSymbol : String := "]"

def reservedSymbols : String :=
  moveSymbol ++ drawSymbol ++ leftSymbol ++ rightSymbol ++ pushSymbol ++ popSymbol

inductive Command where
  | forward
  | turnLeft
  | turnRight
  | push
  | pop
  | other
deriving Repr, DecidableEq

def Command.ofSymbol (symbol : String) : Command :=
  if symbol = drawSymbol || symbol = moveSymbol then forward
  else if symbol = leftSymbol then turnLeft
  else if symbol = rightSymbol then turnRight
  else if symbol = pushSymbol then push
  else if symbol = popSymbol then pop
  else other

def symbolsOf (cs : List Char) : List String := cs.map String.singleton

structure Cursor where
  position : List Float
  angle : Float
  width : Float
  length : Float
deriving Repr, DecidableEq, Inhabited

/-- The unit vector of an angle in degrees. -/
def heading (angle : Float) : Except Fault (Float × Float) :=
  let theta := Number.radians angle
  if theta.isInf then .error .infiniteAngle else .ok (theta.cos, theta.sin)

/-- Move a position by a vector. A single coordinate stands for both. -/
def displace (position : List Float) (dx dy : Float) : Except Fault (List Float) :=
  match position with
  | [x, y] => .ok [x + dx, y + dy]
  | [v] => .ok [v + dx, v + dy]
  | _ => .error .pointShape

/-- A report: the symbol, the label under which it is registered, and a segment. -/
structure Call where
  symbol : String
  label : String
  start : List Float
  startWidth : Float
  finish : List Float
  finishWidth : Float
deriving Repr, DecidableEq, Inhabited

/-- The calls of a walk in order, and what stopped it before its end. -/
structure Trace where
  calls : Array Call
  fault? : Option Fault
deriving Repr, DecidableEq, Inhabited

abbrev Registry := OrderedMap String String

structure Turtle where
  start : Cursor
  deltaAngle : Float
  widthGrowth : Growth
  lengthGrowth : Growth
deriving Repr, DecidableEq, Inhabited

/-- A walk in progress: the cursor, the saved cursors, and the start of the last step forward. -/
structure Walk where
  cursor : Cursor
  saved : List Cursor
  lastPosition : List Float
  lastWidth : Float
deriving Repr, DecidableEq, Inhabited

namespace Turtle

def defaultDeltaAngle : Float := 90

/-- A walk that has not begun. Its last segment is the start point alone. -/
def begin (t : Turtle) : Walk := ⟨t.start, [], t.start.position, t.start.width⟩

def advance (t : Turtle) (c : Cursor) : Except Fault Cursor := do
  let (dx, dy) ← heading c.angle
  let position ← displace c.position (dx * c.length) (dy * c.length)
  return { c with
    position, width := t.widthGrowth.apply c.width, length := t.lengthGrowth.apply c.length }

def step (t : Turtle) (w : Walk) (symbol : String) : Except Fault Walk :=
  match Command.ofSymbol symbol with
  | .forward => do
    let cursor ← t.advance w.cursor
    return { w with cursor, lastPosition := w.cursor.position, lastWidth := w.cursor.width }
  | .turnLeft => .ok { w with cursor.angle := w.cursor.angle + t.deltaAngle }
  | .turnRight => .ok { w with cursor.angle := w.cursor.angle - t.deltaAngle }
  | .push => .ok { w with saved := w.cursor :: w.saved }
  | .pop =>
    match w.saved with
    | [] => .ok w
    | c :: saved => .ok { w with cursor := c, saved }
  | .other => .ok w

/-- The report due at a symbol, from the walk after it: the last completed segment. Turns and
brackets report nothing. -/
def call? (registry : Registry) (w : Walk) (symbol : String) : Option Call :=
  match Command.ofSymbol symbol with
  | .forward | .other =>
    (registry.get? symbol).map fun label =>
      ⟨symbol, label, w.lastPosition, w.lastWidth, w.cursor.position, w.cursor.width⟩
  | _ => none

/-- Go on with a walk and collect its calls. -/
def resume (t : Turtle) (registry : Registry) : Walk → List String → Array Call → Trace
  | _, [], calls => ⟨calls, none⟩
  | w, symbol :: rest, calls =>
    match t.step w symbol with
    | .error fault => ⟨calls, some fault⟩
    | .ok w =>
      match call? registry w symbol with
      | some call => t.resume registry w rest (calls.push call)
      | none => t.resume registry w rest calls

def walk (t : Turtle) (registry : Registry) (symbols : List String) : Trace :=
  t.resume registry t.begin symbols #[]

end Turtle
end PlantGrammar
