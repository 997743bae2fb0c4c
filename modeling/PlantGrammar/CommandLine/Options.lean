import PlantGrammar.Text.Quoted
import PlantGrammar.Text.Digit

/-! # Command options

Words of a command line are options, plain words or the separator `--`, after which every word is
plain. A long option may be cut short while it stays unambiguous, and may carry its value after an
equals sign. A separator in that place is dropped, so the option is given without a value.
-/
namespace PlantGrammar.CommandLine

inductive UsageError where
  | help
  | missingArguments (names : List String)
  | unknownCommand (word : String) (choices : List String)
  | unrecognized (words : List String)
  | missingValue (option : String)
  | ignoredValue (option value : String)
  | ambiguousOption (word : String) (candidates : List String)
  | invalidValue (option type value : String)
  | refusedValue (option reason : String)
deriving Repr, DecidableEq

open Text in
def UsageError.message : UsageError → String
  | help => ""
  | missingArguments names => "the following arguments are required: " ++ ", ".intercalate names
  | unknownCommand word choices =>
    "argument command: invalid choice: " ++ quoted word ++ " (choose from " ++
      ", ".intercalate (choices.map quoted) ++ ")"
  | unrecognized words => "unrecognized arguments: " ++ " ".intercalate words
  | missingValue option => "argument " ++ option ++ ": expected one argument"
  | ignoredValue option value => "argument " ++ option ++ ": ignored explicit argument " ++ quoted value
  | ambiguousOption word candidates =>
    "ambiguous option: " ++ word ++ " could match " ++ ", ".intercalate candidates
  | invalidValue option type value =>
    "argument " ++ option ++ ": invalid " ++ type ++ " value: " ++ quoted value
  | refusedValue option reason => "argument " ++ option ++ ": " ++ reason

inductive Word where
  | plain
  | separator
  | option (name : String) (value? : Option String)
  | unknown
deriving Repr, DecidableEq

def cutAtEquals (word : List Char) : List Char × Option String :=
  match word.dropWhile (· ≠ '=') with
  | [] => (word, none)
  | _ :: value => (word.takeWhile (· ≠ '='), some (String.ofList value))

/-- A minus sign before digits, or before digits with a point and digits; a line break may end it. -/
def looksNegative (word : List Char) : Bool :=
  let isDecimal c := (Text.decimalValue? c).isSome
  let word := if word.getLast? = some '\n' then word.dropLast else word
  match word with
  | '-' :: cs =>
    match cs.dropWhile isDecimal with
    | [] => !cs.isEmpty
    | '.' :: places => !places.isEmpty && places.all isDecimal
    | _ => false
  | _ => false

/-- The help option is always there, under a short and a long name. -/
def helpNames : List String := ["-h", "--help"]

/-- The known option that a word abbreviates, with what is attached to it; `names` are the long
options but for help. -/
def abbreviated (names : List String) (word : String) : List (String × Option String) :=
  match word.toList with
  | '-' :: '-' :: _ =>
    let (stem, value?) := cutAtEquals word.toList
    (("--help" :: names).filter fun n => stem.isPrefixOf n.toList).map (·, value?)
  | '-' :: 'h' :: attached => [("-h", some (String.ofList attached))]
  | _ => []

def classify (names : List String) (word : String) : Except UsageError Word :=
  let cs := word.toList
  let (stem, value?) := cutAtEquals cs
  let known := helpNames ++ names
  if cs.head? ≠ some '-' || cs.length = 1 then .ok .plain
  else if known.contains word then .ok (.option word none)
  else if value?.isSome && known.contains (String.ofList stem) then .ok (.option (String.ofList stem) value?)
  else
    match abbreviated names word with
    | [(name, value?)] => .ok (.option name value?)
    | [] => .ok (if looksNegative cs || cs.contains ' ' then .plain else .unknown)
    | candidates => .error (.ambiguousOption word (candidates.map Prod.fst))

/-- The words up to a separator by their form; after it, all are plain. -/
def classifyAll (names : List String) : List String → Except UsageError (List (String × Word))
  | [] => .ok []
  | word :: rest =>
    if word = "--" then .ok ((word, .separator) :: rest.map (·, .plain))
    else do
      let kind ← classify names word
      return (word, kind) :: (← classifyAll names rest)

/-- What is attached to `-h` are further options of one letter, of which `h` is the only one. -/
def askShortHelp : List Char → UsageError
  | ['h'] => .help
  | 'h' :: cs => askShortHelp cs
  | cs => .ignoredValue "-h/--help" (String.ofList cs)

/-- Asking for help ends the reading; it has no value. -/
def askHelp (name : String) : Option String → UsageError
  | none => .help
  | some attached =>
    if name = "-h" then askShortHelp attached.toList else .ignoredValue "-h/--help" attached

/-- A value written after an equals sign. -/
def assigned (value : String) : Option String := if value = "--" then none else some value

variable {α : Type}

/-- Read options from left to right into a draft. Answers the words that belong to no option. -/
def readOptions (set : α → String → Option String → Except UsageError α) :
    α → List (String × Word) → Except UsageError (α × List String)
  | draft, [] => .ok (draft, [])
  | draft, (_, .option name value?) :: rest =>
    if helpNames.contains name then .error (askHelp name value?)
    else match value?, rest with
      | some value, rest => do readOptions set (← set draft name (assigned value)) rest
      | none, (value, .plain) :: rest => do readOptions set (← set draft name (some value)) rest
      | none, _ => .error (.missingValue name)
  | draft, (word, _) :: rest => do
    let (draft, left) ← readOptions set draft rest
    return (draft, word :: left)

end PlantGrammar.CommandLine
