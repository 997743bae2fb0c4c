import PlantGrammar.CommandLine
import PlantGrammar.Proofs.Scene.Layers
import PlantGrammar.Proofs.Scene.Sound
import PlantGrammar.Proofs.Settings

/-! # Rendering with settings that pass their checks

A rendering begins with a new scene, which shows the default preset of the settings before it shows
the one that is asked for. The fields of the settings are checked one by one, so the default preset may
lie past the catalogue, the seed below zero and the lower limit of the iterations above the upper.
Nothing else is in the way of a picture. Whether it can be saved is not up to the settings alone.
-/
namespace PlantGrammar.CommandLine
variable {settings : Settings} {request : RenderRequest} {report : Report} {key : PresetKey}
  {arguments : Fields} {environment : List (String × String)} {fault : Fault} {picture : Picture}

/-- Iterations that a request asks for, or else those of the preset. -/
def RenderRequest.count (request : RenderRequest) (p : Preset) : ℤ :=
  match request.iterations with
  | .value n => n
  | _ => p.iterations

end PlantGrammar.CommandLine
