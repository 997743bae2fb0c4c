import PlantGrammar.CommandLine

/-! # Entry point -/
open PlantGrammar

/-- The environment variables that give settings. -/
def settingVariables : IO (List (String × String)) :=
  Settings.fieldNames.filterMapM fun name => do
    let key := (Settings.variableStem ++ name).toUpper
    return (← IO.getEnv key).map (key, ·)

def main (words : List String) : IO UInt32 := do
  let (ending, report) := CommandLine.run words (← settingVariables)
  IO.print report.printed
  for notice in report.notices do IO.eprintln notice.text
  for line in report.log do IO.eprintln line
  match ending with
  | .finished code => return code.toUInt32
  | .misused error =>
    unless error = .help do IO.eprintln ("error: " ++ error.message)
    return error.status.toUInt32
  | .broken fault =>
    IO.eprintln ("error: " ++ fault.message)
    return 1
  | .unsettled issues =>
    for issue in issues do IO.eprintln (".".intercalate issue.path ++ ": " ++ issue.kind.name)
    return 1
