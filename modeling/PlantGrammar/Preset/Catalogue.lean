import PlantGrammar.Preset

/-! # Built-in presets -/
namespace PlantGrammar.Preset

def flower1 : Preset where
  name := "Flower 1"
  position := [0, -80]
  width := 4
  length := 20
  angle := 90
  deltaAngle := 40
  input := "F[-fL]F[+fL]FBFFFBBFFFFFJ"
  rules := .ofList [("B", "[-CCCFFJ][+CCCFFJ]"), ("C", "F[-FJ][+FJ]")]
  iterations := 3
  branchColor := [25, 99, 30, 255]
  leafColor := [25, 99, 30, 255]
  flowerInnerColor := [224, 194, 61, 255]
  flowerOuterColor := [71, 76, 166, 255]
  leafType := .kite
  leafSize := [5, 20]
  leafRatio := 0.5
  flowerInnerRadius := 1.5
  flowerOuterRadius := 3
  widthGrowth := ⟨.geometric, 0.8⟩
  lengthGrowth := ⟨.geometric, 0.8⟩

def flower2 : Preset where
  name := "Flower 2"
  position := [0, -80]
  width := 1
  length := 20
  angle := 90
  deltaAngle := 40
  input := "F[+fL]F[-fL]FJ"
  rules := .empty
  iterations := 1
  branchColor := [87, 212, 130, 255]
  leafColor := [87, 212, 130, 255]
  flowerInnerColor := [235, 207, 52, 255]
  flowerOuterColor := [235, 52, 171, 255]
  leafType := .kite
  leafSize := [4, 20]
  leafRatio := 0.5
  flowerInnerRadius := 3
  flowerOuterRadius := 6
  widthGrowth := .still
  lengthGrowth := .still

def tree1 : Preset where
  name := "Tree 1"
  position := [0, -80]
  width := 12
  length := 15
  angle := 90
  deltaAngle := 25
  input := "FFFFFB"
  rules := .ofList [("B", "[-FBfL][+FBfL]")]
  iterations := 7
  branchColor := [161, 90, 43, 255]
  leafColor := [163, 207, 60, 255]
  flowerInnerColor := [235, 207, 52, 255]
  flowerOuterColor := [235, 52, 171, 255]
  leafType := .kite
  leafSize := [3, 5]
  leafRatio := 0.5
  flowerInnerRadius := 3
  flowerOuterRadius := 6
  widthGrowth := ⟨.geometric, 0.7⟩
  lengthGrowth := ⟨.geometric, 0.95⟩

def tree2 : Preset where
  name := "Tree 2"
  position := [0, -80]
  width := 12
  length := 20
  angle := 90
  deltaAngle := 30
  input := "FFX"
  rules := .ofList [("X", "F[-FXL][+FXL]X")]
  iterations := 4
  branchColor := [161, 90, 43, 255]
  leafColor := [163, 207, 60, 255]
  flowerInnerColor := [235, 207, 52, 255]
  flowerOuterColor := [235, 52, 171, 255]
  leafType := .kite
  leafSize := [30, 30]
  leafRatio := 0.5
  flowerInnerRadius := 3
  flowerOuterRadius := 6
  widthGrowth := ⟨.geometric, 0.7⟩
  lengthGrowth := ⟨.geometric, 0.95⟩

def catalogue : List Preset := [flower1, flower2, tree1, tree2]

/-- The preset of an index or a name. Names compare without letter case. All names are ASCII, and
no other character has one of their letters as its lower case, so ASCII lower case is enough. -/
def find (key : PresetKey) : Except Fault Preset :=
  match key with
  | .index i =>
    match (if 0 ≤ i then catalogue[i.toNat]? else none) with
    | some preset => .ok preset
    | none => .error (.presetRange i catalogue.length)
  | .name text =>
    match catalogue.find? fun p => p.name.toLower = text.toLower with
    | some preset => .ok preset
    | none => .error (.unknownPreset text (catalogue.map Preset.name))

end PlantGrammar.Preset
