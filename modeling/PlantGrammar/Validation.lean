import PlantGrammar.Number.Reading
import PlantGrammar.Number.Binary
import PlantGrammar.OrderedMap

/-! # Validation of raw values

A record is read field by field from raw values. Conversions are lenient: numbers may be written as
text. All issues are collected, in field order.
-/
namespace PlantGrammar

inductive Raw where
  | null
  | flag (value : Bool)
  | integer (value : Int)
  | real (value : Float)
  | text (value : String)
  | list (values : List Raw)
  | object (entries : List (String × Raw))
deriving Repr, Inhabited

inductive IssueKind where
  | missing
  | extraForbidden
  | floatType
  | floatParsing
  | intType
  | intParsing
  | intParsingSize
  | intFromFloat
  | finiteNumber
  | stringType
  | pathType
  | tupleType
  | tooLong
  | dictType
  | enum
  | greaterThan
  | greaterThanEqual
  | lessThanEqual
deriving Repr, DecidableEq

def IssueKind.name : IssueKind → String
  | missing => "missing"
  | extraForbidden => "extra_forbidden"
  | floatType => "float_type"
  | floatParsing => "float_parsing"
  | intType => "int_type"
  | intParsing => "int_parsing"
  | intParsingSize => "int_parsing_size"
  | intFromFloat => "int_from_float"
  | finiteNumber => "finite_number"
  | stringType => "string_type"
  | pathType => "path_type"
  | tupleType => "tuple_type"
  | tooLong => "too_long"
  | dictType => "dict_type"
  | enum => "enum"
  | greaterThan => "greater_than"
  | greaterThanEqual => "greater_than_equal"
  | lessThanEqual => "less_than_equal"

/-- What is wrong, and where: field name, then item number or key. -/
structure Issue where
  path : List String
  kind : IssueKind
deriving Repr, DecidableEq

/-- A value, or every issue that stands in its way. -/
inductive Validated (α : Type) where
  | valid (value : α)
  | invalid (issues : List Issue)
deriving Repr, DecidableEq

namespace Validated
variable {α β : Type}

def map (f : α → β) : Validated α → Validated β
  | valid a => valid (f a)
  | invalid issues => invalid issues

/-- Both sides are read; the issues of the left come first. -/
def seq (f : Validated (α → β)) (x : Unit → Validated α) : Validated β :=
  match f, x () with
  | valid f, valid a => valid (f a)
  | valid _, invalid issues => invalid issues
  | invalid issues, valid _ => invalid issues
  | invalid issues, invalid more => invalid (issues ++ more)

instance : Applicative Validated where
  pure := valid
  map := map
  seq := seq

def issue (kind : IssueKind) : Validated α := invalid [⟨[], kind⟩]

/-- Put a path in front of the issues. -/
def under (place : String) : Validated α → Validated α
  | valid a => valid a
  | invalid issues => invalid (issues.map fun i => { i with path := place :: i.path })

def each (read : α → Validated β) : List α → Validated (List β)
  | [] => valid []
  | a :: rest => (List.cons · ·) <$> read a <*> each read rest

/-- Refuse a value that breaks a bound. -/
def ensure (holds : α → Bool) (kind : IssueKind) : Validated α → Validated α
  | valid a => if holds a then valid a else issue kind
  | invalid issues => invalid issues

def toExcept : Validated α → Except (List Issue) α
  | valid a => .ok a
  | invalid issues => .error issues

end Validated

namespace Raw
open Validated

/-- Integers past every finite double are refused. -/
def readFloat : Raw → Validated Float
  | flag b => valid (if b then 1 else 0)
  | integer n => if (Number.ofInt n).isInf then issue .floatType else valid (Number.ofInt n)
  | real x => valid x
  | text s =>
    match Number.readFloat? s with
    | some x => valid x
    | none => issue .floatParsing
  | _ => issue .floatType

/-- The integer that a double stands for. From `2 ^ 63` on in size it is refused. -/
def integerOfFloat (x : Float) : Validated Int :=
  match Number.Magnitude.ofFloat x with
  | .finite v =>
    let (num, den) := v.ratio
    if num % den ≠ 0 then issue .intFromFloat
    else if num / den < 0x8000000000000000 then valid (Number.applySign v.negative (num / den))
    else issue .intParsingSize
  | _ => issue .finiteNumber

def readInt : Raw → Validated Int
  | flag b => valid (if b then 1 else 0)
  | integer n => valid n
  | real x => integerOfFloat x
  | text s =>
    match Number.readInteger s with
    | .ok n => valid n
    | .error .malformed => issue .intParsing
    | .error .tooLong => issue .intParsingSize
  | _ => issue .intType

def readString : Raw → Validated String
  | text s => valid s
  | _ => issue .stringType

def readPath : Raw → Validated String
  | text s => valid s
  | _ => issue .pathType

/-- Exactly `count` items. Too many are one issue, whatever the items are. -/
def readTuple {α : Type} (read : Raw → Validated α) (count : Nat) : Raw → Validated (List α)
  | list xs =>
    if count < xs.length then issue .tooLong
    else each (fun i =>
      match xs[i]? with
      | some x => (read x).under (toString i)
      | none => (issue .missing).under (toString i)) (List.range count)
  | _ => issue .tupleType

def readTexts : Raw → Validated (OrderedMap String String)
  | object entries =>
    .ofList <$> each (fun (k, v) => (k, ·) <$> v.readString.under k) entries
  | _ => issue .dictType

/-- Whether an integer fits a signed word of 64 bits. -/
def fitsWord (n : Int) : Bool := -0x8000000000000000 ≤ n && n < 0x8000000000000000

def readChoice {α : Type} (choice? : Int → Option α) (raw : Raw) : Validated α :=
  let number? := match raw with
    | flag _ | integer _ | real _ => raw.readInt
    | _ => issue .enum
  match number? with
  | valid n =>
    if fitsWord n then
      match choice? n with
      | some a => valid a
      | none => issue .enum
    else issue .intParsingSize
  | invalid _ => issue .enum

end Raw

abbrev Fields := List (String × Raw)

namespace Fields
open Validated

def get? (fields : Fields) (name : String) : Option Raw :=
  (fields.find? fun e => e.1 = name).map Prod.snd

def required {α : Type} (fields : Fields) (name : String) (read : Raw → Validated α) : Validated α :=
  match fields.get? name with
  | some raw => (read raw).under name
  | none => (issue .missing).under name

def optional {α : Type} (fields : Fields) (name : String) (read : Raw → Validated α) (default : α) :
    Validated α :=
  match fields.get? name with
  | some raw => (read raw).under name
  | none => valid default

end Fields
end PlantGrammar
