import ChartManifests.Text.ShellWords
/-!
Commands: a program with its arguments, what it is run for, and the variables that it is given on
top of the environment. A word or a variable without a value is one that the configuration did not
set.
-/

namespace ChartManifests

/-- What a command is run for. A command that fails is reported as a failure of that. -/
inductive Purpose
  | general
  | helm
  | fetch
  | render
deriving DecidableEq, Repr

structure Command where
  words : List (Option Text)
  purpose : Purpose
  environment : List (String × Option Text)
deriving DecidableEq, Repr

/-- The words of a command as a shell would take them; a word without a value is empty. -/
def Command.line (command : Command) : Text :=
  Text.shellLine (command.words.map fun word => word.getD [])

end ChartManifests
