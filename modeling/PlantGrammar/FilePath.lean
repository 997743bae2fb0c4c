/-! # File paths in normal form

Empty parts and single dots are dropped, double dots stay. A path without parts is a single dot.
-/
namespace PlantGrammar.FilePath

/-- One or more slashes in front make a path absolute; exactly two are kept. -/
def root (path : String) : String :=
  match (path.toList.takeWhile (· = '/')).length with
  | 0 => ""
  | 2 => "//"
  | _ => "/"

def parts (path : String) : List String :=
  (path.splitOn "/").filter fun part => part ≠ "" && part ≠ "."

def ofParts (root : String) (parts : List String) : String :=
  let path := root ++ "/".intercalate parts
  if path.isEmpty then "." else path

def normalize (path : String) : String := ofParts (root path) (parts path)

def inDirectory (directory name : String) : String := ofParts (root directory) (parts directory ++ [name])

end PlantGrammar.FilePath
