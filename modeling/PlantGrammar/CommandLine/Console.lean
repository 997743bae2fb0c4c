import PlantGrammar.Text.Emoji
import PlantGrammar.Text.Width

/-! # Console text

Lines go to the console as they are, but for named emoji, a few control characters and tabs.
-/
namespace PlantGrammar.CommandLine

/-- Bell, backspace, vertical tab, form feed and carriage return are not printed. -/
def isDropped (c : Char) : Bool := [7, 8, 11, 12, 13].contains c.toNat

def dropControls (text : String) : String :=
  String.ofList (text.toList.filter fun c => !isDropped c)

def blanks (count : Nat) : String := String.ofList (List.replicate count ' ')

/-- Blanks from a column to the next multiple of eight. -/
def tabFill (column : Nat) : Nat := (8 - column % 8) % 8

/-- Go on behind `done` with the pieces of a line between its tabs. A tab is one blank and the fill
after it. -/
def joinTabbed (done : String) (column : Nat) : List String → String
  | [] => done
  | [piece] => done ++ piece
  | piece :: rest =>
    let piece := piece ++ " "
    let column := column + Text.width piece.toList
    joinTabbed (done ++ piece ++ blanks (tabFill column)) (column + tabFill column) rest

def expandTabs (line : String) : String := joinTabbed "" 0 (line.split '\t').toStringList

def printed (text : String) : String :=
  let lines := ((dropControls (Text.withEmoji text)).split '\n').toStringList
  "\n".intercalate (lines.map expandTabs) ++ "\n"

inductive Alignment where
  | left
  | right
deriving Repr, DecidableEq

def Alignment.pad (a : Alignment) (width : Nat) (cell : String) : String :=
  match a with
  | .left => cell ++ blanks (width - cell.length)
  | .right => blanks (width - cell.length) ++ cell

def centered (width : Nat) (text : String) : String :=
  let excess := width - text.length
  blanks (excess / 2) ++ text ++ blanks (excess - excess / 2)

/-- A horizontal rule: left end, fill, crossing and right end. -/
def ruled (ends : String × String) (fill : Char) (crossing : String) (widths : List Nat) : String :=
  let bars := widths.map fun w => String.ofList (List.replicate (w + 2) fill)
  ends.1 ++ crossing.intercalate bars ++ ends.2

def cells (bar : String) (columns : List (Alignment × Nat)) (row : List String) : String :=
  let padded := (columns.zip row).map fun (c, cell) => " " ++ c.1.pad c.2 cell ++ " "
  bar ++ bar.intercalate padded ++ bar

/-- A table with a title above it and a heavy head, each column as wide as its widest cell. -/
def table (title : String) (columns : List (Alignment × String)) (rows : List (List String)) : String :=
  let widths := columns.mapIdx fun i c =>
    rows.foldl (fun w row => max w (row.getD i "").length) c.2.length
  let aligned := (columns.map Prod.fst).zip widths
  let top := ruled ("┏", "┓") '━' "┳" widths
  let lines :=
    [centered top.length title, top, cells "┃" aligned (columns.map Prod.snd),
      ruled ("┡", "┩") '━' "╇" widths] ++
    rows.map (cells "│" aligned) ++ [ruled ("└", "┘") '─' "┴" widths]
  String.join (lines.map (· ++ "\n"))

end PlantGrammar.CommandLine
