import ChartManifests.World
/-!
Runners carry out commands. A runner may answer anything and do anything to the files, and may
remember the commands that it was given before.
-/

namespace ChartManifests

/-- How a command ended: with its output or a failure, the files it left, and what was recorded
about it. -/
structure Answer where
  result : Except Failure Text.Bytes
  files : Files
  events : List Event

abbrev Runner := List Command → Command → Files → Answer

def Runner.run (runner : Runner) (command : Command) : Action Text.Bytes :=
  .of fun world =>
    let answer := runner world.commands command world.files
    let after := { world with
      files := answer.files
      commands := world.commands ++ [command] }
    (answer.result, after.recordAll answer.events)

end ChartManifests
