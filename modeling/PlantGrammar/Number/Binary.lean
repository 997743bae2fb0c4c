/-! # Binary floating point read exactly

A double is a sign, a significand and a power of two, read from its bit pattern. Rounding and
printing work on this exact value, so no arithmetic of their own can round.
-/
namespace PlantGrammar.Number

/-- The number `significand * 2 ^ exponent`, negated when `negative` is set. Zero keeps its sign. -/
structure BinaryFraction where
  negative : Bool
  significand : Nat
  exponent : Int
deriving Repr, DecidableEq

/-- Weight of the sign bit of binary64. -/
def signWeight : Nat := 0x8000000000000000

/-- Weight of the lowest exponent bit. The fraction has the fifty-two bits below. -/
def exponentWeight : Nat := 0x10000000000000

inductive Magnitude where
  | nan
  | infinite (negative : Bool)
  | finite (value : BinaryFraction)
deriving Repr, DecidableEq

namespace Magnitude

/-- Bit pattern of binary64: one sign bit, eleven exponent bits, fifty-two fraction bits. -/
def ofBits (bits : UInt64) : Magnitude :=
  let word := bits.toNat
  let negative := signWeight ≤ word
  let exponent : Nat := word / exponentWeight % 2048
  let fraction : Nat := word % exponentWeight
  if exponent = 2047 then
    if fraction = 0 then infinite negative else nan
  else if exponent = 0 then finite ⟨negative, fraction, -1074⟩
  else finite ⟨negative, exponentWeight + fraction, (exponent : Int) - 1075⟩

def ofFloat (x : Float) : Magnitude := ofBits x.toBits

def isFinite : Magnitude → Bool
  | finite _ => true
  | _ => false

end Magnitude

def BinaryFraction.ratio (v : BinaryFraction) : Nat × Nat :=
  match v.exponent with
  | .ofNat e => (v.significand * Nat.pow 2 e, 1)
  | .negSucc e => (v.significand, Nat.pow 2 (e + 1))

end PlantGrammar.Number
