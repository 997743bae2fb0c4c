import PlantGrammar.CommandLine
import PlantGrammar.CommandLine.Console
import PlantGrammar.CommandLine.Markup
import PlantGrammar.CommandLine.Options
import PlantGrammar.CommandLine.Request
import PlantGrammar.Fault
import PlantGrammar.FilePath
import PlantGrammar.Grammar
import PlantGrammar.LSystem
import PlantGrammar.Main
import PlantGrammar.Mesh
import PlantGrammar.Mesh.Color
import PlantGrammar.Mesh.DrawOrder
import PlantGrammar.Mesh.Point
import PlantGrammar.Mesh.Shape
import PlantGrammar.Number.Angle
import PlantGrammar.Number.Binary
import PlantGrammar.Number.Hypotenuse
import PlantGrammar.Number.Nearest
import PlantGrammar.Number.Reading
import PlantGrammar.Number.Rounding
import PlantGrammar.Number.Significant
import PlantGrammar.Number.Single
import PlantGrammar.OrderedMap
import PlantGrammar.Preset
import PlantGrammar.Preset.Catalogue
import PlantGrammar.Random
import PlantGrammar.Scene
import PlantGrammar.Scene.Canvas
import PlantGrammar.Scene.Organ
import PlantGrammar.Settings
import PlantGrammar.Skeleton
import PlantGrammar.Strand
import PlantGrammar.Text.CodePoint
import PlantGrammar.Text.Digit
import PlantGrammar.Text.Emoji
import PlantGrammar.Text.EmojiTable
import PlantGrammar.Text.Printable
import PlantGrammar.Text.Quoted
import PlantGrammar.Text.WhiteSpace
import PlantGrammar.Text.Width
import PlantGrammar.Turtle
import PlantGrammar.Turtle.Growth
import PlantGrammar.Validation
import PlantGrammar.Proofs.Strand.Threading
import PlantGrammar.Proofs.Strand.Walk
import PlantGrammar.Proofs.Grammar.Pass
import PlantGrammar.Proofs.Strand.Edit
import PlantGrammar.Proofs.Grammar.Expansion
import PlantGrammar.Proofs.Turtle.Brackets
import PlantGrammar.Proofs.Turtle.Matching
import PlantGrammar.Proofs.Turtle.Path
import PlantGrammar.Proofs.Grammar.Balance
import PlantGrammar.Proofs.Grammar.Derivation
import PlantGrammar.Proofs.Scene.History
import PlantGrammar.Proofs.Grammar.Iteration
import PlantGrammar.Proofs.LSystem.History
import PlantGrammar.Proofs.Turtle.Anchor
import PlantGrammar.Proofs.OrderedMap
import PlantGrammar.Proofs.Skeleton.Reach
import PlantGrammar.Proofs.Mesh.Append
import PlantGrammar.Proofs.Mesh.Frame
import PlantGrammar.Proofs.Mesh.Emission
import PlantGrammar.Proofs.Mesh.Arrays
import PlantGrammar.Proofs.Mesh.Strokes
import PlantGrammar.Proofs.Mesh.Distance
import PlantGrammar.Proofs.Mesh.Translation
import PlantGrammar.Proofs.Scene.Organ
import PlantGrammar.Proofs.Scene.Picture
import PlantGrammar.Proofs.Turtle.Steps
import PlantGrammar.Proofs.Turtle.Pairing
import PlantGrammar.Proofs.Turtle.Branch
import PlantGrammar.Proofs.Skeleton.Merge
import PlantGrammar.Proofs.Scene.Loading
import PlantGrammar.Proofs.Turtle.Registries
import PlantGrammar.Proofs.Scene.UserRules
import PlantGrammar.Proofs.Number.Binary
import PlantGrammar.Proofs.Number.Moderate
import PlantGrammar.Proofs.Number.Order
import PlantGrammar.Proofs.Turtle.Steady
import PlantGrammar.Proofs.Turtle.Faults
import PlantGrammar.Proofs.Settings
import PlantGrammar.Proofs.Scene.Sound
import PlantGrammar.Proofs.Scene.Sprouts
import PlantGrammar.Proofs.Scene.Replay
import PlantGrammar.Proofs.Mesh.DrawOrder
import PlantGrammar.Proofs.Mesh.Depths
import PlantGrammar.Proofs.Scene.Layers
import PlantGrammar.Proofs.CommandLine.Rendering
import PlantGrammar.Proofs.CommandLine.Expansion
import PlantGrammar.Proofs.Strand.Splice
import PlantGrammar.Proofs.Grammar.Splices
import PlantGrammar.Proofs.Strand.Handles
import PlantGrammar.Proofs.Strand.Substitution
import PlantGrammar.Proofs.Strand.Renumber
import PlantGrammar.Proofs.Grammar.Census
import PlantGrammar.Proofs.Grammar.Settling
import PlantGrammar.Proofs.Mesh.ClosedFan
import PlantGrammar.Proofs.Mesh.Refusal
import PlantGrammar.Proofs.Number.HalfEven
import PlantGrammar.Proofs.Mesh.Packing
import PlantGrammar.Proofs.Skeleton.Reorder
import PlantGrammar.Proofs.Number.Bounds
import PlantGrammar.Proofs.Preset
import PlantGrammar.Proofs.CommandLine.Markup
import PlantGrammar.Proofs.Scene.Notices
