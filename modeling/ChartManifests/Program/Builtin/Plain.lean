import ChartManifests.Program.Builtin.Place
import ChartManifests.Program.Builtin.Reading
import ChartManifests.Program.Builtin.Settings
import ChartManifests.Program.Builtin.Signals
/-!
The utilities of the shell that run nothing else.
-/

namespace ChartManifests.Program

def Builtin.run (name : String) (arguments : List String) : Run Nat := do
  let state ← get
  let label := state.title ++ ": " ++ toString state.line ++ ": " ++ name
  match name with
  | ":" | "true" => pure 0
  | "false" => pure 1
  | "times" => do
    writeText 1 "0m0.000000s 0m0.000000s\n0m0.000000s 0m0.000000s\n"
    pure 0
  | "shift" => shift arguments
  | "export" => exportAll arguments
  | "readonly" => fixAll arguments
  | "local" => keepLocals arguments
  | "unset" => unset arguments
  | "set" => setAll arguments
  | "getopts" => findOption arguments
  | "umask" => umask arguments
  | "alias" => nickname arguments
  | "unalias" => unalias arguments
  | "trap" => trap arguments
  | "wait" => wait arguments
  | "jobs" => listJobs arguments
  | "kill" => kill arguments
  | "bg" | "fg" => refuse name "No current job"
  | "ulimit" => do
    let (_, operands) ← letters "ulimit" "HSatfdscmlpnvwr".toList arguments
    if operands.isEmpty then writeText 1 "unlimited\n"
    pure 0
  | "cd" | "chdir" => changeDirectory arguments
  | "pwd" => tellDirectory arguments
  | "type" => type arguments
  | "hash" => hash arguments
  | "read" => read arguments
  | "echo" => do
    put (echoed arguments)
    pure 0
  | "printf" => do
    let (_, words) ← letters name [] arguments
    Utility.printf .shell label words
  | "test" => Utility.test .shell label arguments
  | "[" => Utility.bracket .shell label arguments
  | _ => pure 127

end ChartManifests.Program
