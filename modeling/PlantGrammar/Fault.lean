import PlantGrammar.Text.Quoted

/-! # Causes of failure

Every operation that can fail names its cause. The wording is in `Fault.message` alone.
-/
namespace PlantGrammar

inductive Fault where
  /-- The index addresses no live node of a symbol sequence. -/
  | deadNode (index : Int)
  | infiniteAngle
  /-- A bare number stands where coordinates are needed. -/
  | scalarPoint
  /-- A point has a number of coordinates that does not fit. -/
  | pointShape
  /-- A segment has no plane direction. -/
  | segmentShape
  /-- A pair of numbers has no such item. -/
  | missingItem
  | channelCount
  | nanChannel
  | infiniteChannel
  | negativeCount
  /-- A value does not fit an unsigned word of 32 bits. -/
  | wordRange
  | vertexRange
  /-- A list of triangle corners ends inside a triangle. -/
  | looseCorner
  /-- A count of decimals does not fit a signed word of 32 bits. -/
  | decimalsRange
  /-- A line from an infinitely far point to itself cannot be drawn. -/
  | infiniteLoop
  | negativeSeed
  | presetRange (index : Int) (count : Nat)
  | unknownPreset (name : String) (choices : List String)
  | unknownGrowth (law : Int)
  | unknownLeaf (kind : Int)
  | ruleText (text : String)
  /-- Digits of no positional system stand where an index is needed. -/
  | indexText (text : String)
  | emptyRule
  | emptyIterations
  | emptyPreset
  /-- A picture cannot be saved in the form that is asked for. -/
  | unsavable (reason : String)
  /-- The file of a picture, or the directory for it, cannot be made. -/
  | unwritable (reason : String)
  /-- A closing tag in a log line has no tag to close. -/
  | unopenedTag (name : List Char)
deriving Repr, DecidableEq

open Text in
def Fault.message : Fault → String
  | deadNode i => s!"Node {i} is not part of this sequence."
  | infiniteAngle => "the angle is infinite"
  | scalarPoint => "a point needs coordinates"
  | pointShape => "the number of coordinates does not fit"
  | segmentShape => "a segment needs two coordinates"
  | missingItem => "the pair has no such item"
  | channelCount => "a color needs four channels"
  | nanChannel => "a channel is not a number"
  | infiniteChannel => "a channel is infinite"
  | negativeCount => "a count is negative"
  | wordRange => "the value does not fit 32 bits"
  | vertexRange => "a triangle names a missing vertex"
  | looseCorner => "the corners do not make whole triangles"
  | decimalsRange => "the number of decimals does not fit 32 bits"
  | infiniteLoop => "a point infinitely far away is joined to itself"
  | negativeSeed => "expected non-negative integer"
  | presetRange i count => s!"Preset index {i} out of range (0..{(count : Int) - 1})."
  | unknownPreset name choices =>
    "Unknown preset " ++ quoted name ++ "; choose from " ++ quotedList choices ++ "."
  | unknownGrowth law => s!"{law} is no growth law"
  | unknownLeaf kind => s!"{kind} is no kind of leaf"
  | ruleText text => "Rule " ++ quoted text ++ " must look like KEY=BODY."
  | indexText text => quoted text ++ " is no index"
  | emptyRule => "not enough values to unpack (expected 2, got 0)"
  | emptyIterations => "the number of iterations has no value"
  | emptyPreset => "the preset has no value"
  | unsavable reason => reason
  | unwritable reason => reason
  | unopenedTag name => "closing tag " ++ quoted ("[/" ++ String.ofList name ++ "]") ++ " closes nothing"

/-- A result as a computation that leaves its state alone. -/
def ofResult {σ α : Type} : Except Fault α → EStateM Fault σ α
  | .ok a => pure a
  | .error fault => throw fault

theorem bind_eq_ok {α β : Type} {x : Except Fault α} {f : α → Except Fault β} {b : β} :
    x >>= f = .ok b ↔ ∃ a, x = .ok a ∧ f a = .ok b := by
  cases x with
  | error fault =>
    constructor
    · intro h
      cases h
    · rintro ⟨a, h, _⟩
      cases h
  | ok a =>
    constructor
    · intro h
      exact ⟨a, rfl, h⟩
    · rintro ⟨a', h, hf⟩
      cases h
      exact hf

end PlantGrammar
