import ChartManifests.Trace
/-!
How actions run. One action after another runs in the world that the first one leaves, and a
failure ends both. A step leaves the result of its body as it is and only adds to the log.
-/

namespace ChartManifests

namespace Action

variable {α β : Type}

@[simp] theorem run_of (step : World → Except Failure α × World) (world : World) :
    (Action.of step).run world = step world := rfl

@[simp] theorem run_pure (value : α) (world : World) :
    (pure value : Action α).run world = (.ok value, world) := rfl

@[simp] theorem run_lift (result : Except Failure α) (world : World) :
    (Action.lift result).run world = (result, world) := rfl

@[simp] theorem run_record (event : Event) (world : World) :
    (Action.record event).run world = (.ok (), world.record event) := rfl

@[simp] theorem run_andFinally (action : Action α) (change : World → World) (world : World) :
    (action.andFinally change).run world =
      ((action.run world).1, change (action.run world).2) := rfl

theorem run_bind (action : Action α) (next : α → Action β) (world : World) :
    (action >>= next).run world =
      match action.run world with
      | (.ok value, after) => (next value).run after
      | (.error failure, after) => (.error failure, after) := by
  simp only [Action.run, ExceptT.run_bind, StateT.run_bind]
  cases (ExceptT.run action).run world with
  | mk result after => cases result <;> rfl

theorem run_bind_ok {action : Action α} {next : α → Action β} {world after : World} {value : α}
    (ended : action.run world = (.ok value, after)) :
    (action >>= next).run world = (next value).run after := by
  rw [run_bind, ended]

theorem run_bind_error {action : Action α} {next : α → Action β} {world after : World}
    {failure : Failure} (ended : action.run world = (.error failure, after)) :
    (action >>= next).run world = (.error failure, after) := by
  rw [run_bind, ended]

theorem run_discard (action : Action α) (world : World) :
    (discard action : Action Unit).run world =
      ((action.run world).1.map fun _ => (), (action.run world).2) := by
  have unfolded : (discard action : Action Unit) = action >>= fun _ => pure () := rfl
  rw [unfolded, run_bind]
  cases action.run world with
  | mk result after => cases result <;> rfl

end Action

section Steps

variable {α : Type} (step : String) (chart : Option Text) (body : Action α) (world : World)

def stepBegun : World := world.record (.stepBegun (stepLabel step chart))

@[simp] theorem traced_result :
    ((traced step chart body).run world).1 = (body.run (stepBegun step chart world)).1 := by
  simp only [traced, Action.run_of, stepBegun]
  split <;> rfl

theorem traced_world :
    ∃ event, ((traced step chart body).run world).2 =
      (body.run (stepBegun step chart world)).2.record event := by
  simp only [traced, Action.run_of, stepBegun]
  split
  · exact ⟨_, rfl⟩
  · exact ⟨_, rfl⟩

end Steps

end ChartManifests
