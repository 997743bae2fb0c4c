import PlantGrammar.Number.Binary

/-! # Rounding to the nearest integer, a half going to the even neighbour -/
namespace PlantGrammar.Number

/-- The quotient `num / den` rounded to the nearest natural number, ties to even. -/
def roundQuotient (num den : Nat) : Nat :=
  let q := num / den
  let twice := 2 * (num % den)
  if twice < den then q
  else if den < twice then q + 1
  else if q % 2 = 0 then q else q + 1

def BinaryFraction.round (v : BinaryFraction) : Int :=
  let n := roundQuotient v.ratio.1 v.ratio.2
  if v.negative then -(n : Int) else n

/-- The nearest integer as a double. A double without fraction bits, an infinity and a NaN are
their own. -/
def roundToInteger (x : Float) : Float :=
  match Magnitude.ofFloat x with
  | .finite v =>
    match v.exponent with
    | .ofNat _ => x
    | .negSucc _ => if v.round < 0 then -Float.ofNat v.round.natAbs else Float.ofNat v.round.natAbs
  | _ => x

/-- `10 ^ n` as a double: exact up to `10 ^ 22`, beyond that each further factor rounds. -/
def powerOfTen (n : Nat) : Float :=
  go (min n 400) 1
where
  go : Nat → Float → Float
    | 0, p => p
    | k + 1, p => go k (p * 10)

/-- Round to `places` decimals, or to a multiple of a power of ten when `places` is negative. -/
def roundToPlaces (places : Int) (x : Float) : Float :=
  match places with
  | .ofNat n => let p := powerOfTen n; roundToInteger (x * p) / p
  | .negSucc n => let p := powerOfTen (n + 1); roundToInteger (x / p) * p

end PlantGrammar.Number
