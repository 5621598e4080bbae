import EntityFilter.CommandLine.Program

/-!
The program: a run over the files, the environment and the standard streams of the process.
-/

namespace EntityFilter

def systemFiles : Files IO where
  isPresent path := do
    try
      let _ ← IO.FS.realPath path
      return true
    catch _ => return false
  read? path := do
    try return some (← IO.FS.readFile path)
    catch _ => return none

def readStdin : IO (Option String) := do
  try return some (← (← IO.getStdin).readToEnd)
  catch _ => return none

/-- The text of the nearest file of variables, in the current directory or one above it. -/
def readVariables : IO (Option String) := do
  let depth := ((← IO.currentDir).toString.splitOn "/").length
  (List.range depth).findSomeM? fun levels =>
    systemFiles.read? ("".intercalate (List.replicate levels "../") ++ ".env")

/-- The values of variables that are set in the process. -/
def readEnvironment (names : List String) : IO Environment :=
  names.eraseDups.filterMapM fun name => do
    return (← IO.getEnv name).map fun value => (name, value)

end EntityFilter

/-- Runs the program on the arguments of the process. -/
def main (args : List String) : IO UInt32 := do
  let text := (← EntityFilter.readVariables).getD ""
  let options := EntityFilter.Level.variableNames.map (·.1)
  let outside ← EntityFilter.readEnvironment (options ++ EntityFilter.Environment.mentioned text)
  let outcome ←
    EntityFilter.Program.start EntityFilter.systemFiles EntityFilter.readStdin outside text args
  IO.print outcome.output
  match outcome.failure with
  | some failure => IO.eprintln ("\nError: " ++ EntityFilter.joinLinks failure.links ++ "\n")
  | none => if outcome.exitCode = 2 then IO.eprint EntityFilter.Program.helpText
  return UInt32.ofNat outcome.exitCode
