import PlantGrammar.Number.Nearest

/-! # Single precision

Numbers of single precision are kept as doubles. Sums and quotients of such doubles, rounded once
more, are those of single precision: a double has more than twice as many digits.
-/
namespace PlantGrammar.Number

/-- Exponent of the last of twenty-four digits of a fraction, or of the least number there is. -/
def singleUnit (v : BinaryFraction) : Int := max (-149) (v.significand.log2 + v.exponent - 23)

def toSingle (x : Float) : Float :=
  match Magnitude.ofFloat x with
  | .finite v =>
    let unit := singleUnit v
    let (n, d) := scaleDown v.ratio.1 v.ratio.2 unit
    let rounded : BinaryFraction := ⟨v.negative, roundQuotient n d, unit⟩
    if Nat.pow 2 128 ≤ rounded.ratio.1 / rounded.ratio.2 then (if v.negative then -1 / 0 else 1 / 0)
    else rounded.toFloat
  | _ => x

end PlantGrammar.Number
