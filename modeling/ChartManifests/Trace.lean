import ChartManifests.World
/-!
Steps of a run. A step is recorded when it begins and again when it ends, as done or as failed.
-/

namespace ChartManifests

def stepLabel (step : String) (chart : Option Text) : Text :=
  match chart with
  | some name => if name = [] then step else step ++ " [" ++ name ++ "]"
  | none => step

def traced {α : Type} (step : String) (chart : Option Text) (body : Action α) : Action α :=
  let label := stepLabel step chart
  .of fun world =>
    let (result, after) := body.run (world.record (.stepBegun label))
    match result with
    | .ok _ => (result, after.record (.stepDone label))
    | .error _ => (result, after.record (.stepFailed label))

inductive StepTree
  | node (step : String) (chart : Option Text) (inner : List StepTree) (raises : Option String)

mutual

def StepTree.run : StepTree → Action Unit
  | .node step chart inner raises =>
    traced step chart do
      runSteps inner
      match raises with
      | some text => .fail (.raised text)
      | none => pure ()

def runSteps : List StepTree → Action Unit
  | [] => pure ()
  | tree :: rest => do
    tree.run
    runSteps rest

end

end ChartManifests
