import PlantGrammar.Number.Rounding

/-! # Decimal text with a fixed number of significant digits

A finite number is rounded, from its exact value, to the nearest decimal with the given count of
digits. Trailing zeros are dropped. The exponent form is used when the decimal exponent is below
`-4` or not below the digit count.
-/
namespace PlantGrammar.Number

def decimalLength (n : Nat) : Nat := (Nat.toDigits 10 n).length

/-- The `k` with `10 ^ k ≤ num / den < 10 ^ (k + 1)`, for a positive quotient. -/
def decimalExponent (num den : Nat) : Int :=
  if den ≤ num then decimalLength (num / den) - 1
  else -(decimalLength ((den - 1) / num) : Int)

/-- The quotient to `digits` significant digits: the digits as one integer, and the decimal
exponent of the first. Rounding up to a power of ten moves the exponent. -/
def significand (digits : Nat) (num den : Nat) : Nat × Int :=
  let k := decimalExponent num den
  let n :=
    match (digits : Int) - 1 - k with
    | .ofNat up => roundQuotient (num * Nat.pow 10 up) den
    | .negSucc down => roundQuotient num (den * Nat.pow 10 (down + 1))
  if n = Nat.pow 10 digits then (Nat.pow 10 (digits - 1), k + 1) else (n, k)

def dropTrailing (c : Char) (cs : List Char) : List Char :=
  (cs.reverse.dropWhile (· = c)).reverse

/-- Whole part and fraction part, the point left out with an empty fraction. -/
def pointed (whole fraction : List Char) : String :=
  match dropTrailing '0' fraction with
  | [] => String.ofList whole
  | fraction => String.ofList (whole ++ '.' :: fraction)

def exponentText (k : Int) : String :=
  let digits := Nat.toDigits 10 k.natAbs
  let digits := if digits.length < 2 then '0' :: digits else digits
  String.ofList ('e' :: (if k < 0 then '-' else '+') :: digits)

def magnitudeText (digits num den : Nat) : String :=
  if num = 0 then "0" else
  let (n, k) := significand digits num den
  let cs := Nat.toDigits 10 n
  if k < -4 ∨ (digits : Int) ≤ k then pointed (cs.take 1) (cs.drop 1) ++ exponentText k
  else match k with
    | .ofNat whole => pointed (cs.take (whole + 1)) (cs.drop (whole + 1))
    | .negSucc zeros => pointed ['0'] (List.replicate zeros '0' ++ cs)

def significantText (digits : Nat) (x : Float) : String :=
  match Magnitude.ofFloat x with
  | .nan => "nan"
  | .infinite negative => if negative then "-inf" else "inf"
  | .finite v =>
    let text := magnitudeText digits v.ratio.1 v.ratio.2
    if v.negative then "-" ++ text else text

/-- Widths, angles, lengths and parameters: twelve digits. -/
def plainText (x : Float) : String := significantText 12 x

/-- Coordinates: ten digits, and anything closer to zero than `1e-9` is `0`. -/
def coordinateText (x : Float) : String :=
  if x.abs < 1e-9 then "0" else significantText 10 x

end PlantGrammar.Number
