import PlantGrammar.Text.Emoji

/-! # Markup

Log lines carry markup in square brackets. A tag opens a style or closes the nearest open one of its
name, and a tag that has nothing to close cannot be read. Escaping takes the meaning from the brackets
of a text.
-/
namespace PlantGrammar.CommandLine

/-- Whether the characters after an opening bracket make it a markup tag. -/
def opensTag : List Char → Bool
  | c :: cs =>
    (('a' ≤ c && c ≤ 'z') || c = '#' || c = '/' || c = '@') &&
      (cs.dropWhile fun c => c ≠ '[' && c ≠ ']').head? = some ']'
  | [] => false

/-- Escape markup tags. Backslashes right before a tag are doubled and one is added; `slashes`
counts those just read. -/
def escapeTags (slashes : Nat) : List Char → List Char
  | [] => List.replicate slashes '\\'
  | '\\' :: cs => escapeTags (slashes + 1) cs
  | '[' :: cs =>
    List.replicate (if opensTag cs then 2 * slashes + 1 else slashes) '\\' ++ '[' :: escapeTags 0 cs
  | c :: cs => List.replicate slashes '\\' ++ c :: escapeTags 0 cs

def escapeMarkup (text : String) : String := String.ofList (escapeTags 0 text.toList)

/-- What stands between the brackets of each tag, in order. After an odd number of backslashes a
bracket opens no tag; `slashes` counts those just read. -/
def tagsFrom (slashes : Nat) : List Char → List (List Char)
  | [] => []
  | '\\' :: cs => tagsFrom (slashes + 1) cs
  | '[' :: cs =>
    if opensTag cs && slashes % 2 = 0 then cs.takeWhile (· ≠ ']') :: tagsFrom 0 cs
    else tagsFrom 0 cs
  | _ :: cs => tagsFrom 0 cs

inductive Tag where
  | opening (name : List Char)
  | closing (name : List Char)
deriving Repr, DecidableEq

/-- A name ends at an equals sign, and may have blanks around it behind a slash. -/
def Tag.ofText (text : List Char) : Tag :=
  match text.takeWhile (· ≠ '=') with
  | '/' :: name => closing (Text.trimBy Text.endsName name)
  | name => opening name

def tags (text : String) : List Tag := (tagsFrom 0 text.toList).map Tag.ofText

/-- A closing tag that has no tag to close. -/
structure Unopened where
  name : List Char
deriving Repr, DecidableEq

/-- The open styles after one more tag, the last opened first. Names of one style differ in their
spelling, and `canonical` has one for each. A closing tag without a name closes the last. -/
def turnTag (canonical : List Char → List Char) (opened : List (List Char)) :
    Tag → Except Unopened (List (List Char))
  | .opening name => .ok (canonical name :: opened)
  | .closing [] =>
    match opened with
    | [] => .error ⟨[]⟩
    | _ :: rest => .ok rest
  | .closing name =>
    if canonical name ∈ opened then .ok (opened.erase (canonical name)) else .error ⟨name⟩

def readTags (canonical : List Char → List Char) (opened : List (List Char)) (ts : List Tag) :
    Except Unopened (List (List Char)) :=
  ts.foldlM (turnTag canonical) opened

/-- Read the markup of a log line. What is still open at its end does not matter. -/
def readMarkup (canonical : List Char → List Char) (text : String) : Except Unopened Unit :=
  (fun _ => ()) <$> readTags canonical [] (tags text)

end PlantGrammar.CommandLine
