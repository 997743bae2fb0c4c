import PlantGrammar.Text.EmojiTable
import PlantGrammar.Text.WhiteSpace
import Std.Data.HashMap

/-! # Emoji

A name between two colons stands for an emoji. A name may ask for the text or the emoji form of its
character. What is no known name stays as it is.
-/
namespace PlantGrammar.Text

def inPairs {α : Type} : List α → List (α × α)
  | a :: b :: rest => (a, b) :: inPairs rest
  | _ => []

def emojiTable : Std.HashMap String String :=
  .ofList (inPairs ((emojiText.split fun c => c = ' ' || c = '\n').toStringList))

/-- The lower case of the letters that names have. -/
def lowerLetter (c : Char) : Char :=
  let n := c.toNat
  if n = 0x212a then 'k'
  else if n = 0x212b then 'å'
  else if 0xc0 ≤ n && n ≤ 0xde && n ≠ 0xd7 then Char.ofNat (n + 32)
  else c.toLower

/-- The endings of a name that choose a form, each with the selector for it. -/
def formEndings : List (String × String) := [("-text", "\ufe0e"), ("-emoji", "\ufe0f")]

/-- Cut the ending that chooses a form, and answer its selector. -/
def cutForm (name : List Char) : List Char × String :=
  match formEndings.find? fun e => e.1.toList.isSuffixOf name with
  | some (ending, selector) => (name.take (name.length - ending.length), selector)
  | none => (name, "")

/-- The emoji of a name, or the name between its colons. -/
def emojiOr (name : String) : String :=
  let (letters, selector) := cutForm name.toList
  match emojiTable[String.ofList (letters.map lowerLetter)]? with
  | some emoji => emoji ++ selector
  | none => ":" ++ name ++ ":"

/-- Separators of files, groups, records and units end a name like white space. -/
def endsName (c : Char) : Bool := isWhiteSpace c || (0x1c ≤ c.toNat && c.toNat ≤ 0x1f)

/-- Go on behind `done` with pieces of text that each follow a colon. A name uses up the colon
behind it too. -/
def joinNamed (done : String) : List String → String
  | [] => done
  | [piece] => done ++ ":" ++ piece
  | piece :: next :: rest =>
    if piece.toList.any endsName then joinNamed (done ++ ":" ++ piece) (next :: rest)
    else joinNamed (done ++ emojiOr piece ++ next) rest

def withEmoji (text : String) : String :=
  match (text.split ':').toStringList with
  | [] => text
  | first :: rest => joinNamed first rest

end PlantGrammar.Text
