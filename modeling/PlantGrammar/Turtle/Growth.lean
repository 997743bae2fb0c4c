import PlantGrammar.Fault

/-! # Growth

How a width or a length evolves with every step forward.
-/
namespace PlantGrammar

inductive GrowthLaw where
  | constant
  | linear
  | geometric
  | exponential
deriving Repr, DecidableEq, Inhabited

namespace GrowthLaw

def all : List GrowthLaw := [constant, linear, geometric, exponential]

def number : GrowthLaw → Nat
  | constant => 0
  | linear => 1
  | geometric => 2
  | exponential => 3

def name : GrowthLaw → String
  | constant => "NONE"
  | linear => "LINEAR"
  | geometric => "GEOMETRIC"
  | exponential => "EXPONENTIAL"

def ofNumber? (n : Int) : Option GrowthLaw := all.find? fun law => (law.number : Int) = n

end GrowthLaw

structure Growth where
  law : GrowthLaw
  parameter : Float
deriving Repr, DecidableEq, Inhabited

namespace Growth

def still : Growth := ⟨.constant, 0⟩

/-- Whether this is `still`; both zeros are its parameter. -/
def isStill (g : Growth) : Bool := g.law == .constant && g.parameter == 0

/-- A real power. An exponent of one half is the square root, also of the negative zero and of the
negative infinity. -/
def power (base exponent : Float) : Float :=
  if exponent == 0.5 then base.sqrt else base.pow exponent

def apply (g : Growth) (value : Float) : Float :=
  match g.law with
  | .constant => value
  | .linear => value + g.parameter
  | .geometric => value * g.parameter
  | .exponential => power value g.parameter

def ofNumber (law : Int) (parameter : Float) : Except Fault Growth :=
  match GrowthLaw.ofNumber? law with
  | some law => .ok ⟨law, parameter⟩
  | none => .error (.unknownGrowth law)

end Growth
end PlantGrammar
