import PlantGrammar.OrderedMap
import PlantGrammar.Strand

/-! # Grammars

The rules of a grammar give some symbols a body. One derivation step replaces, at the same time,
every symbol that has a body; the symbols of the bodies wait for the next step. `successor` says
this on plain text, `expand` does it in place on a strand.
-/
namespace PlantGrammar

/-- Bodies by key. A key that is not a single character belongs to no symbol. -/
abbrev Rules := OrderedMap String String

namespace Rules

def body? (rules : Rules) (c : Char) : Option String := rules.get? (String.singleton c)

def image (rules : Rules) (c : Char) : List Char :=
  match rules.body? c with
  | some body => body.toList
  | none => [c]

def successor (rules : Rules) (text : List Char) : List Char := text.flatMap rules.image

/-- A pass in progress: the strand, and the node that comes next. -/
abbrev Pass := Strand × Option Nat

/-- Treat the next node. Its successor is taken first, so the new nodes are not visited. -/
def passStep (rules : Rules) : Pass → Except Fault Pass
  | (s, none) => .ok (s, none)
  | (s, some i) => do
    let following ← s.next i
    let c ← s.symbol i
    match rules.body? c with
    | some body => return ((← s.splice i body).1, following)
    | none => return (s, following)

def passSteps (rules : Rules) : Nat → Pass → Except Fault Pass
  | 0, p => .ok p
  | n + 1, p => do rules.passSteps n (← rules.passStep p)

/-- Replace every symbol that has a body, once, in place: one step for each symbol. -/
def expand (rules : Rules) (s : Strand) : Except Fault Strand :=
  Prod.fst <$> rules.passSteps s.length (s, s.head)

/-- Expand and renumber again and again. -/
def deriveFrom (rules : Rules) : Nat → Strand → Except Fault Strand
  | 0, s => .ok s
  | n + 1, s => do rules.deriveFrom n (← rules.expand s).renumber

/-- Derive from a text in `count` steps; a negative count is none. -/
def derive (rules : Rules) (text : String) (count : Int) : Except Fault Strand :=
  rules.deriveFrom count.toNat (.ofString text)

end Rules
end PlantGrammar
