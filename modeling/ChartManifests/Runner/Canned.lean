import ChartManifests.Path
import ChartManifests.Runner
/-!
A runner that answers from a script instead of running programs. The second word of a command
tells which answer it gets.
-/

namespace ChartManifests

/-- What a scripted runner does, by the second word of a command: it crashes, it refuses the
command, or it gives an output. A `pull` may create the chart that it asks for. -/
structure Script where
  crashes : List String
  refusals : List (String × String)
  pullCreatesChart : Bool
  outputs : List (String × Text.Bytes)

namespace Script

def wordAfter (word : Text) : List (Option Text) → Option Text
  | first :: second :: rest => if first = some word then second else wordAfter word (second :: rest)
  | _ => none

def lastPart (reference : Text) : Text :=
  (Text.splitAt Path.slash reference).getLast?.getD []

def createChart (host : Host) (command : Command) (files : Files) :
    Except Failure Files :=
  match wordAfter "--untardir" command.words, command.words.getLast?.join with
  | some home, some reference =>
    let directory := ((Path.ofText home).child (lastPart reference)).text
    match directory.external with
    | .error fault => .error (.defect (.encoding fault))
    | .ok name =>
      match files.find host.current name with
      | .ok _ => .error (.file .occupied directory)
      | .error _ =>
        match files.makeDirectory host.current name with
        | .ok made => .ok made
        | .error refused => .error (.file refused.fault directory)
  | _, _ => .error (.path .noHome)

def runner (host : Host) (script : Script) : Runner := fun _ command files =>
  let verb := (((command.words[1]?.join).bind Text.chars?).map String.ofList).getD ""
  if script.crashes.contains verb then ⟨.error (.crashed "unexpected"), files, []⟩
  else
    match script.refusals.lookup verb with
    | some errors =>
      ⟨.error (.command command.purpose command.line (.refused errors)), files, []⟩
    | none =>
      let output := (script.outputs.lookup verb).getD []
      if script.pullCreatesChart && verb = "pull" then
        match createChart host command files with
        | .ok made => ⟨.ok output, made, []⟩
        | .error failure => ⟨.error failure, files, []⟩
      else ⟨.ok output, files, []⟩

end Script

end ChartManifests
