/-! # Angles -/
namespace PlantGrammar.Number

def pi : Float := 3.141592653589793

def radians (angle : Float) : Float := angle * (pi / 180)

end PlantGrammar.Number
