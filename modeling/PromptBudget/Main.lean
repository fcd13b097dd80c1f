import PromptBudget.Command.Run

/-!
# PromptBudget — the program

The program gathers what its command sees, runs the command, and prints what it ends with. It has no
network, so services are never reached.
-/

namespace PromptBudget.Program

open Command

/-- The variables of the environment that commands look at. -/
def variableNames : List String :=
  ["HOME", "PROMPTFLOW_CONFIG", "PROMPTFLOW_LLM_ENDPOINT", "PROMPTFLOW_API_KEY", "OPENAI_API_KEY",
    "PROMPTFLOW_SUMMARY_MODEL", "PROMPTFLOW_SEMANTIC_ENDPOINT"]

/-- The variables that are set. -/
def environment : IO Environment := do
  let values ← variableNames.mapM fun name => return (← IO.getEnv name).map fun value => (name, value)
  return values.filterMap id

/-- What is found at a path. -/
def fileAt (path : String) : IO FileState := do
  try
    return .file (← IO.FS.readBinFile path).toList
  catch
    | .noFileOrDirectory .. => return .missing
    | _ => return .directory

/-- What the command of some words sees. -/
def surroundings (words : List String) : IO Surroundings := do
  let environment ← environment
  let request := (Command.read words (pathFromEnvironment environment)).toOption
  let paths := request.elim [] (·.paths environment)
  let files ← paths.mapM fun path => return (path, ← fileAt path)
  let input ← if request.any (·.readsInput) then (← IO.getStdin).readBinToEnd else pure .empty
  return {
    environment
    files := fun path => (Json.lookup path files).getD .missing
    input := input.toList
    transport := .offline "no network"
    malformedDetail := "not a document of settings" }

end PromptBudget.Program

/-- Runs the command of some words. -/
def main (words : List String) : IO UInt32 := do
  let output := PromptBudget.Command.run words (← PromptBudget.Program.surroundings words)
  IO.print output.printed
  if let some reason := output.failure then IO.eprintln ("Error: " ++ reason)
  return UInt32.ofNat output.code
