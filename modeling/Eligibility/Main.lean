import Eligibility.CommandLine.Report

/-!
# The program

Reads the environment and, if a command asks a question, the input; runs the command line;
writes what it reports. A server that is to be started is shown as a document, for the
process that hosts it.
-/

open Eligibility

/-- The variables of the environment that the settings know. -/
def settingVariables : IO Variables := do
  let names := Settings.default.toFields.map fun (key, _) => "RULECRAFT_" ++ key.toUpper
  names.filterMapM fun name => return (← IO.getEnv name).map fun value => (name, value)

/-- The lines of the input, if the command line needs them. -/
def inputLines (words : List String) : IO (List String) := do
  if CommandLine.readsInput words then
    return CommandLine.linesOf (← (← IO.getStdin).readToEnd)
  return []

/-- Runs the command line. -/
def main (words : List String) : IO UInt32 := do
  match CommandLine.run (← settingVariables) (← inputLines words) words with
  | .ok report =>
      IO.print report.output
      IO.eprint report.errors
      if let some launch := report.launch then IO.println (Value.object launch.toFields).write
      return report.status.toUInt32
  | .error e =>
      IO.eprintln e.message
      return 1
