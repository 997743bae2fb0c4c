import PlantGrammar.Number.Nearest
import PlantGrammar.Text.Digit
import PlantGrammar.Text.WhiteSpace

/-! # Numbers written as text -/
namespace PlantGrammar.Number
open Text

def digitsValue (digits : List Nat) : Nat := digits.foldl (fun n d => 10 * n + d) 0

def spanDigits (cs : List Char) : List Nat × List Char :=
  ((cs.takeWhile Char.isDigit).map fun c => c.toNat - '0'.toNat, cs.dropWhile Char.isDigit)

/-- A leading sign: whether it is a minus, and the rest. -/
def splitSign : List Char → Bool × List Char
  | '-' :: cs => (true, cs)
  | '+' :: cs => (false, cs)
  | cs => (false, cs)

def applySign (negative : Bool) (n : Nat) : Int := if negative then -(n : Int) else n

/-- `m * 10 ^ e` as the nearest double. Exponents past every finite double are cut off first. -/
def decimalFloat (m : Nat) (e : Int) : Float :=
  if m = 0 then 0
  else if 400 + (Nat.log2 m : Int) < -e then 0
  else if 400 < e then 1 / 0
  else if e < 0 then nearest false m (Nat.pow 10 e.natAbs)
  else nearest false (m * Nat.pow 10 e.natAbs) 1

/-- The optional exponent of a decimal fraction, which must end the text. -/
def readExponent? : List Char → Option Int
  | [] => some 0
  | c :: cs =>
    if c = 'e' || c = 'E' then
      let (negative, cs) := splitSign cs
      match spanDigits cs with
      | ([], _) => none
      | (ds, []) => some (applySign negative (digitsValue ds))
      | _ => none
    else none

/-- An unsigned decimal fraction: digits, a point among them or at one end, an exponent. -/
def readFraction? (cs : List Char) : Option Float :=
  let (whole, rest) := spanDigits cs
  let (places, rest) := match rest with
    | '.' :: rest => spanDigits rest
    | _ => ([], rest)
  if whole.isEmpty && places.isEmpty then none
  else (readExponent? rest).map fun e => decimalFloat (digitsValue (whole ++ places)) (e - places.length)

/-- A decimal fraction or one of the words for infinity and NaN in any letter case, with an
optional sign. -/
def readSigned? (cs : List Char) : Option Float :=
  let (negative, cs) := splitSign cs
  let lower := String.ofList (cs.map Char.toLower)
  let value :=
    if lower = "inf" || lower = "infinity" then some (1 / 0)
    else if lower = "nan" then some (0 / 0)
    else readFraction? cs
  value.map fun x => if negative then -x else x

/-- Single underscores strictly inside the text are digit separators. -/
def dropSeparators? (cs : List Char) : Option (List Char) :=
  let doubled := (cs.zip cs.tail).any (· == ('_', '_'))
  if cs.head? = some '_' || cs.getLast? = some '_' || doubled then none
  else some (cs.filter (· ≠ '_'))

/-- Read a real number. White space may surround it, or separators stand in it, but not both. -/
def readFloat? (text : String) : Option Float :=
  let cs := text.toList
  match readSigned? (trimBy isWhiteSpace cs) with
  | some x => some x
  | none => dropSeparators? cs >>= readSigned?

def digitLimit : Nat := 4300

inductive IntegerFault where
  | malformed
  | tooLong
deriving Repr, DecidableEq

/-- Digits without a leading zero, or the zero alone, after an optional minus sign. A run of more
characters than the limit is too long, whatever follows it. -/
def readStrictInteger (cs : List Char) : Except IntegerFault Int :=
  let (negative, digits) := match cs with
    | '-' :: cs => (true, cs)
    | cs => (false, cs)
  match spanDigits digits with
  | ([], _) => .error .malformed
  | (0 :: ds, rest) => if ds.isEmpty && rest.isEmpty then .ok 0 else .error .malformed
  | (ds, rest) =>
    if digitLimit < ds.length + (if negative then 1 else 0) then .error .tooLong
    else if rest.isEmpty then .ok (applySign negative (digitsValue ds))
    else .error .malformed

/-- Drop leading zeros, and separators among them. The last zero before a point or at the end
stays, and a minus sign may follow the zeros. -/
def dropLeadingZeros? : List Char → Option (List Char)
  | '0' :: cs => go '0' cs
  | c :: cs => if c.isDigit || c = '-' then some (c :: cs) else none
  | [] => none
where
  go (previous : Char) : List Char → Option (List Char)
    | [] => some [previous]
    | c :: cs =>
      if c = '0' || c = '_' then go c cs
      else if c = '.' then some (previous :: c :: cs)
      else if c.isDigit || c = '-' then some (c :: cs)
      else none

/-- Drop a point and the zeros after it when at least one zero and nothing else follows. -/
def dropZeroFraction (cs : List Char) : List Char :=
  match cs.dropWhile (· ≠ '.') with
  | _ :: places =>
    if !places.isEmpty && places.all (· = '0') then cs.takeWhile (· ≠ '.') else cs
  | [] => cs

/-- The strict form of a lenient integer: a plus sign, leading zeros, a fraction of zeros and
separators are dropped. -/
def tidyInteger? (cs : List Char) : Option (List Char) := do
  let cs ← match cs with
    | '+' :: '-' :: _ => none
    | '+' :: cs => some cs
    | cs => some cs
  let cs := dropZeroFraction (← dropLeadingZeros? cs)
  return (dropSeparators? cs).getD cs

def readInteger (text : String) : Except IntegerFault Int :=
  let cs := trimBy isWhiteSpace text.toList
  match readStrictInteger cs with
  | .error .malformed =>
    match (tidyInteger? cs).map readStrictInteger with
    | some (.ok n) => .ok n
    | _ => .error .malformed
  | result => result

/-- Read a whole count: white space around it, a sign, decimal digits of any script with single
underscores between them. -/
def readCount? (text : String) : Option Int := do
  let (negative, cs) := splitSign (trimBy isWhiteSpace text.toList)
  let cs ← dropSeparators? cs
  let ds ← cs.mapM decimalValue?
  if ds.isEmpty || digitLimit < ds.length then none
  else some (applySign negative (digitsValue ds))

end PlantGrammar.Number
