import PlantGrammar.Fault
import PlantGrammar.Number.Rounding

/-! # Packed colors

Four channels red, green, blue, alpha of a byte each make one number, red in the highest byte.
-/
namespace PlantGrammar

inductive Channel where
  | integer (n : Int)
  | real (x : Float)
deriving Repr, DecidableEq, Inhabited

namespace Channel

def round : Channel → Except Fault Int
  | integer n => .ok n
  | real x =>
    match Number.Magnitude.ofFloat x with
    | .finite v => .ok v.round
    | .infinite _ => .error .infiniteChannel
    | .nan => .error .nanChannel

end Channel

def clampByte (n : Int) : Nat := (min (max n 0) 255).toNat

def joinBytes (r g b a : Nat) : Nat := ((r * 256 + g) * 256 + b) * 256 + a

/-- Bytes from the highest down. -/
def splitBytes (p : Nat) : List Nat :=
  [p / 16777216 % 256, p / 65536 % 256, p / 256 % 256, p % 256]

/-- Pack channels, rounded and clamped to a byte. The channels are read in order, and no further
than the fifth, which is one too many. -/
def Color.pack (channels : List Channel) : Except Fault Int := do
  match ← (channels.take 5).mapM Channel.round with
  | [r, g, b, a] => return joinBytes (clampByte r) (clampByte g) (clampByte b) (clampByte a)
  | _ => .error .channelCount

/-- A number as an unsigned word of 32 bits. -/
def word32 (n : Int) : Except Fault Nat :=
  if 0 ≤ n ∧ n < 0x100000000 then .ok n.toNat else .error .wordRange

/-- The channels of a packed word, from zero to one. -/
def Color.levels (color : Nat) : List Float := (splitBytes color).map fun b => b.toFloat / 255

def Color.unpack (color : Int) : Except Fault (List Float) := Color.levels <$> word32 color

end PlantGrammar
