import PlantGrammar.Grammar
import PlantGrammar.Turtle

/-! # Lindenmayer systems

Rules, a turtle and registered symbols together: an axiom is derived and the result is walked.
-/
namespace PlantGrammar

structure LSystem where
  turtle : Turtle
  rules : Rules
  registry : Registry
deriving Repr, DecidableEq, Inhabited

namespace LSystem

/-- A system that only knows where its turtle starts. -/
def ofCursor (start : Cursor) : LSystem :=
  ⟨⟨start, Turtle.defaultDeltaAngle, .still, .still⟩, .empty, .empty⟩

def addRule (l : LSystem) (key body : String) : LSystem := { l with rules := l.rules.insert key body }

def clearRules (l : LSystem) : LSystem := { l with rules := .empty }

def register (l : LSystem) (symbol label : String) : LSystem :=
  { l with registry := l.registry.insert symbol label }

def grow (l : LSystem) (axiomText : String) (count : Int) : Except Fault (Strand × Trace) := do
  let s ← l.rules.derive axiomText count
  return (s, l.turtle.walk l.registry (symbolsOf s.symbols))

end LSystem
end PlantGrammar
