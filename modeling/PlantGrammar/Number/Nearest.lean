import PlantGrammar.Number.Rounding

/-! # The nearest double

A quotient of natural numbers is rounded once, ties to even, to a multiple of the unit that a
double of its size has in the last place. Whole multiples of that unit count the bit patterns up,
also across a power of two and from the subnormal numbers to the normal ones.
-/
namespace PlantGrammar.Number

/-- The quotient `num / den` divided by a power of two, as a quotient. -/
def scaleDown (num den : Nat) : Int → Nat × Nat
  | .ofNat e => (num, den * Nat.pow 2 e)
  | .negSucc e => (num * Nat.pow 2 (e + 1), den)

/-- The `k` with `2 ^ k ≤ num / den < 2 ^ (k + 1)`, for a positive quotient. -/
def binaryExponent (num den : Nat) : Int :=
  let k : Int := (num.log2 : Int) - den.log2
  let (n, d) := scaleDown num den k
  if d ≤ n then k else k - 1

def leastExponent : Int := -1074

def infinityBits : Nat := 0x7ff0000000000000

def nearestBits (num den : Nat) : Nat :=
  if num = 0 then 0
  else
    let unit := max leastExponent (binaryExponent num den - 52)
    let (n, d) := scaleDown num den unit
    min ((unit - leastExponent).toNat * exponentWeight + roundQuotient n d) infinityBits

/-- The double nearest to `num / den`, or to its opposite. -/
def nearest (negative : Bool) (num den : Nat) : Float :=
  let sign := if negative then signWeight else 0
  Float.ofBits (UInt64.ofNat (sign + nearestBits num den))

def ofInt (n : Int) : Float := nearest (n < 0) n.natAbs 1

def BinaryFraction.toFloat (v : BinaryFraction) : Float := nearest v.negative v.ratio.1 v.ratio.2

end PlantGrammar.Number
