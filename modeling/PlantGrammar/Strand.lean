import PlantGrammar.Fault

/-! # Strands of symbols

A strand is a doubly linked list of symbols in one arena. Nodes are addressed by their index, which
stays the same while the node lives. Replacing a node by a run of new nodes touches only its
neighbours. The replaced node stays in the arena, detached, until the live ones are renumbered.
-/
namespace PlantGrammar

structure Node where
  symbol : Char
  prev : Option Nat
  next : Option Nat
  live : Bool
deriving Repr, DecidableEq, Inhabited

structure Strand where
  nodes : Array Node
  length : Nat
  head : Option Nat
  tail : Option Nat
deriving Repr, DecidableEq, Inhabited

/-- The nodes of a run of symbols whose first index is `base`, linked to each other and, at the
ends, to `before` and `after`. -/
def Node.run (before after : Option Nat) (base : Nat) (cs : List Char) : Array Node :=
  let symbols := cs.toArray
  symbols.mapIdx fun k c =>
    { symbol := c
      prev := if k = 0 then before else some (base + k - 1)
      next := if k + 1 = symbols.size then after else some (base + k + 1)
      live := true }

namespace Strand

def empty : Strand := ⟨#[], 0, none, none⟩

/-- Number of nodes in the arena, detached ones included. -/
def capacity (s : Strand) : Nat := s.nodes.size

/-- First and last index of a run of `count` nodes from `base` on. -/
def runEnds (base count : Nat) : Option (Nat × Nat) :=
  if count = 0 then none else some (base, base + count - 1)

def ofList (cs : List Char) : Strand :=
  let ends := runEnds 0 cs.length
  ⟨Node.run none none 0 cs, cs.length, ends.map Prod.fst, ends.map Prod.snd⟩

def ofString (text : String) : Strand := ofList text.toList

def node? (s : Strand) (i : Int) : Option (Nat × Node) :=
  match i with
  | .ofNat n => (s.nodes[n]?).bind fun node => if node.live then some (n, node) else none
  | .negSucc _ => none

def node (s : Strand) (i : Int) : Except Fault (Nat × Node) :=
  match s.node? i with
  | some found => .ok found
  | none => .error (.deadNode i)

def symbol (s : Strand) (i : Int) : Except Fault Char := (·.2.symbol) <$> s.node i
def prev (s : Strand) (i : Int) : Except Fault (Option Nat) := (·.2.prev) <$> s.node i
def next (s : Strand) (i : Int) : Except Fault (Option Nat) := (·.2.next) <$> s.node i

/-- Follow links from a node, at most `fuel` of them. -/
def follow (nodes : Array Node) (link : Node → Option Nat) : Nat → Option Nat → Array Nat → Array Nat
  | fuel + 1, some i, seen => follow nodes link fuel (nodes[i]?.bind link) (seen.push i)
  | _, _, seen => seen

def indices (s : Strand) : List Nat := (follow s.nodes Node.next s.capacity s.head #[]).toList

def backIndices (s : Strand) : List Nat := (follow s.nodes Node.prev s.capacity s.tail #[]).toList

def symbols (s : Strand) : List Char :=
  s.indices.map fun i => (s.nodes[i]?.map Node.symbol).getD default

def text (s : Strand) : String := String.ofList s.symbols

def relink (nodes : Array Node) (i : Option Nat) (f : Node → Node) : Array Node :=
  match i with
  | some i => nodes.modify i f
  | none => nodes

/-- Put a run of new nodes in the place of node `n`, which is detached. Its neighbours are linked to
the ends of the run, or to each other if the run is empty. -/
def replace (s : Strand) (n : Nat) (node : Node) (cs : List Char) : Strand :=
  let ends := runEnds s.capacity cs.length
  let first := (ends.map Prod.fst).or node.next
  let last := (ends.map Prod.snd).or node.prev
  let nodes := s.nodes ++ Node.run node.prev node.next s.capacity cs
  let nodes := relink nodes node.prev fun before => { before with next := first }
  let nodes := relink nodes node.next fun after => { after with prev := last }
  { nodes := nodes.modify n fun old => { old with live := false, prev := none, next := none }
    length := s.length + cs.length - 1
    head := if node.prev.isNone then first else s.head
    tail := if node.next.isNone then last else s.tail }

/-- Replace a live node by a run of new nodes; an empty run removes it. Answers the first and last
index of the run. -/
def splice (s : Strand) (i : Int) (text : String) : Except Fault (Strand × Option (Nat × Nat)) := do
  let (n, node) ← s.node i
  let cs := text.toList
  let ends := runEnds s.capacity cs.length
  return (s.replace n node cs, ends)

def spliceAll (s : Strand) (edits : List (Nat × String)) : Except Fault Strand :=
  edits.foldlM (fun s e => Prod.fst <$> s.splice e.1 e.2) s

def holding (s : Strand) (symbol : String) : List Nat :=
  s.indices.filter fun i => s.nodes[i]?.any fun node => String.singleton node.symbol = symbol

/-- Splice a text at every node that holds a symbol when the edit begins. -/
def spliceWhere (s : Strand) (symbol text : String) : Except Fault Strand :=
  s.spliceAll ((s.holding symbol).map (·, text))

/-- Number the live nodes from zero on, in strand order, and drop the detached ones. -/
def renumber (s : Strand) : Strand := ofList s.symbols

def display (s : Strand) : String := "SymbolSequence(" ++ Text.quoted s.text ++ ")"

/-- Strands are equal when they spell the same text, however their nodes are numbered. -/
def sameText (s t : Strand) : Bool := s.text = t.text

def hasText (s : Strand) (text : String) : Bool := s.text = text

end Strand
end PlantGrammar
