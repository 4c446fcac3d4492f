import ChartManifests.Text.CodePoint
/-!
What is recorded while a chart is inflated: one event a line, each with a level and the part that
recorded it.
-/

namespace ChartManifests

inductive Level
  | debug
  | info
  | warning
  | error
  | critical
deriving DecidableEq, Repr

namespace Level

def rank : Level → Nat
  | debug => 10
  | info => 20
  | warning => 30
  | error => 40
  | critical => 50

def name : Level → String
  | debug => "DEBUG"
  | info => "INFO"
  | warning => "WARNING"
  | error => "ERROR"
  | critical => "CRITICAL"

def all : List Level := [debug, info, warning, error, critical]

end Level

inductive Event
  | commandStarted (line : Text)
  | commandFailed (message : Text)
  | directoryCreated (path : Text)
  | directoryRemoved (path : Text)
  | stepBegun (label : Text)
  | stepDone (label : Text)
  | stepFailed (label : Text)
  | versionFound (version : String)
  | chartFound (directory : Text)
  | chartPulled (chart : Text)
deriving DecidableEq, Repr

namespace Event

def part : Event → String
  | commandStarted _ | commandFailed _ => "command"
  | directoryCreated _ | directoryRemoved _ => "config"
  | stepBegun _ | stepDone _ | stepFailed _ => "context"
  | versionFound _ | chartFound _ => "helm"
  | chartPulled _ => "generator"

def level : Event → Level
  | chartPulled _ => .info
  | _ => .debug

def seconds (hundredths : Nat) : String :=
  let places := hundredths % 100
  toString (hundredths / 100) ++ (if places < 10 then ".0" else ".") ++ toString places

/-- The wording of an event; if it ends a step, that step has lasted for a number of hundredths of a
second. -/
def message (lasted : Nat) : Event → Text
  | commandStarted line => "Running command: " ++ line
  | commandFailed message => message
  | directoryCreated path => "Created working directory " ++ path
  | directoryRemoved path => "Removing working directory " ++ path
  | stepBegun label => "[Trace] > " ++ label
  | stepDone label => "[Trace] < " ++ label ++ " (" ++ seconds lasted ++ "s)"
  | stepFailed label => "[Trace] ! " ++ label ++ " failed (" ++ seconds lasted ++ "s)"
  | versionFound version => "Using helm v" ++ version
  | chartFound directory => "Using local chart " ++ directory
  | chartPulled chart => "Pulled chart " ++ chart

end Event

end ChartManifests
