import PlantGrammar.Fault

/-! # Seeded random numbers

A seed of any size is mixed into a pool of four words, which seeds a permuted congruential
generator of 128 bits. Equal seeds give equal draws.
-/
namespace PlantGrammar

structure Generator where
  state : BitVec 128
  increment : BitVec 128
deriving Repr, DecidableEq, Inhabited

namespace Generator

/-- Words of 32 bits, least significant first; at least one. -/
def words (n : Nat) : List UInt32 :=
  if n < 0x100000000 then [n.toUInt32] else n.toUInt32 :: words (n / 0x100000000)
termination_by n

def fold16 (v : UInt32) : UInt32 := v ^^^ (v >>> 16)

/-- Scramble a word with the running constant, which advances. -/
def hashWord (factor v : UInt32) : StateM UInt32 UInt32 := do
  let v := v ^^^ (← get)
  modify (· * factor)
  return fold16 (v * (← get))

def mixWords (x y : UInt32) : UInt32 := fold16 (0xca01f9dd * x - 0x4973f715 * y)

/-- Mix a word into every place of the pool that `keep` does not spare. -/
def stir (factor : UInt32) (word : List UInt32 → UInt32) (spared : Option Nat) (pool : List UInt32) :
    StateM UInt32 (List UInt32) :=
  (List.range pool.length).foldlM (fun pool d => do
    if spared = some d then return pool
    let h ← hashWord factor (word pool)
    return pool.modify d fun x => mixWords x h) pool

def pool (seed : Nat) : List UInt32 := Id.run do
  let ws := words seed
  let factor : UInt32 := 0x931e8875
  let build : StateM UInt32 (List UInt32) := do
    let pool ← (List.range 4).mapM fun i => hashWord factor (ws.getD i 0)
    let pool ← (List.range 4).foldlM (fun pool s => stir factor (·.getD s 0) (some s) pool) pool
    (ws.drop 4).foldlM (fun pool w => stir factor (fun _ => w) none pool) pool
  return (build.run 0x43b0d7e5).1

def seedWords (seed : Nat) : List (BitVec 64) :=
  let pool := pool seed
  let draw : StateM UInt32 (List UInt32) :=
    (List.range 8).mapM fun i => hashWord 0x58f38ded (pool.getD (i % 4) 0)
  let out := (draw.run 0x8b51f9dd).1
  (List.range 4).map fun k => (out.getD (2 * k + 1) 0).toBitVec ++ (out.getD (2 * k) 0).toBitVec

def multiplier : BitVec 128 := 0x2360ED051FC65DA44385DF649FCCF645

def advance (g : Generator) : Generator := { g with state := g.state * multiplier + g.increment }

def ofSeed (seed : Int) : Except Fault Generator :=
  if seed < 0 then .error .negativeSeed else
    let w := seedWords seed.toNat
    let start : BitVec 128 := w.getD 0 0 ++ w.getD 1 0
    let stream : BitVec 128 := w.getD 2 0 ++ w.getD 3 0
    let g := advance ⟨0, stream <<< 1 ||| 1⟩
    .ok (advance { g with state := g.state + start })

/-- Fold the state to its half, rotated right by its six highest bits. -/
def output (state : BitVec 128) : BitVec 64 :=
  (state.extractLsb' 64 64 ^^^ state.extractLsb' 0 64).rotateRight (state.extractLsb' 122 6).toNat

/-- A number from zero to below one, in steps of `2 ^ -53`. -/
def nextFloat (g : Generator) : Float × Generator :=
  let g := g.advance
  ((output g.state >>> 11).toNat.toFloat / 9007199254740992, g)

end Generator
end PlantGrammar
