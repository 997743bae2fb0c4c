import PlantGrammar.CommandLine.Options
import PlantGrammar.Number.Reading
import PlantGrammar.Preset

/-! # Requests

What a command line asks for: the list of presets, the expansion of a grammar, or the rendering of
a preset.
-/
namespace PlantGrammar.CommandLine

inductive Given (α : Type) where
  | absent
  | empty
  | value (a : α)
deriving Repr, DecidableEq, Inhabited

/-- A rule without a value is kept, and so is a number of iterations without a value. -/
structure ExpandRequest where
  axiomText : Given String
  rules : List (Option (String × String))
  iterations : Option Int
deriving Repr, DecidableEq, Inhabited

structure RenderRequest where
  preset : Given PresetKey
  iterations : Given Int
  output : Option String
  dpi : Option Int
deriving Repr, DecidableEq, Inhabited

inductive Request where
  | presets
  | expand (axiomText : String) (rules : List (Option (String × String))) (iterations : Option Int)
  | render (request : RenderRequest)
deriving Repr

/-- Split a rule at its first equals sign. The key is not empty, the body may be. -/
def readRule (text : String) : Except Fault (String × String) :=
  match cutAtEquals text.toList with
  | (key, some body) => if key.isEmpty then .error (.ruleText text) else .ok (String.ofList key, body)
  | (_, none) => .error (.ruleText text)

/-- Digits are an index, any other text a name. -/
def readPresetKey (text : String) : Except Fault PresetKey :=
  if !text.isEmpty && text.toList.all Text.isDigit then
    match Number.readCount? text with
    | some i => .ok (.index i)
    | none => .error (.indexText text)
  else .ok (.name text)

def readCount (option value : String) : Except UsageError Int :=
  match Number.readCount? value with
  | some n => .ok n
  | none => .error (.invalidValue option "int" value)

def expandOptions : List String := ["--axiom", "--rule", "--iterations"]

def ruleOption (option value : String) : Except UsageError (String × String) :=
  match readRule value with
  | .ok rule => .ok rule
  | .error fault => .error (.refusedValue option fault.message)

/-- The last value of an option counts; rules collect. -/
def setExpand (r : ExpandRequest) (option : String) (value? : Option String) :
    Except UsageError ExpandRequest := do
  if option = "--axiom" then return { r with axiomText := value?.elim .empty .value }
  else if option = "--rule" then
    return { r with rules := r.rules ++ [← value?.mapM (ruleOption option)] }
  else return { r with iterations := ← value?.mapM (readCount option) }

def renderOptions : List String := ["--preset", "--iterations", "--output", "--dpi"]

def presetOption (option value : String) : Except UsageError PresetKey :=
  match readPresetKey value with
  | .ok key => .ok key
  | .error _ => .error (.invalidValue option "_preset_key" value)

/-- An output or a resolution without a value is the default one. -/
def setRender (r : RenderRequest) (option : String) (value? : Option String) :
    Except UsageError RenderRequest := do
  if option = "--preset" then
    return { r with preset := (← value?.mapM (presetOption option)).elim .empty .value }
  else if option = "--iterations" then
    return { r with iterations := (← value?.mapM (readCount option)).elim .empty .value }
  else if option = "--output" then return { r with output := value? }
  else return { r with dpi := ← value?.mapM (readCount option) }

def commands : List String := ["presets", "expand", "render"]

/-- The request of a command and its words, with the words left over. -/
def readCommand (command : String) (words : List String) : Except UsageError (Request × List String) :=
  if command = "presets" then do
    let (_, left) ← readOptions (fun u _ _ => .ok u) () (← classifyAll [] words)
    return (.presets, left)
  else if command = "expand" then do
    let (r, left) ← readOptions setExpand ⟨.absent, [], some 1⟩ (← classifyAll expandOptions words)
    match r.axiomText with
    | .value text => return (.expand text r.rules r.iterations, left)
    | .empty => return (.expand "" r.rules r.iterations, left)
    | .absent => .error (.missingArguments ["--axiom"])
  else if command = "render" then do
    let (r, left) ← readOptions setRender ⟨.absent, .absent, none, none⟩ (← classifyAll renderOptions words)
    return (.render r, left)
  else .error (.unknownCommand command commands)

/-- Find the command; unknown options before it are left over. -/
def findCommand (left : List String) : List (String × Word) → Except UsageError (Request × List String)
  | [] => .error (.missingArguments ["command"])
  | (_, .option name value?) :: _ => .error (askHelp name value?)
  | (word, .unknown) :: rest => findCommand (left ++ [word]) rest
  | [(_, .separator)] => .error (.missingArguments ["command"])
  | (word, _) :: rest => do
    let (request, more) ← readCommand word (rest.map Prod.fst)
    return (request, left ++ more)

def readRequest (words : List String) : Except UsageError Request := do
  let (request, left) ← findCommand [] (← classifyAll [] words)
  if left.isEmpty then return request else .error (.unrecognized left)

end PlantGrammar.CommandLine
