import ChartManifests.Program.Items
import ChartManifests.Program.Search
import ChartManifests.Program.Substitution
import ChartManifests.Program.Run
import ChartManifests.Shell.Cursor
/-!
What the rich shell needs the interpreter of scripts for, and what it has by means of that.
-/

namespace ChartManifests.Program.Rich

open Shell (Glyph Mark Statement Word)

/-- What the interpreter does for the rich shell: it expands words, runs statements, a text as a
part of the script, and a program that was found, and it starts stages of a pipeline and shells that
branch off. -/
structure Means where
  expand : Bool → Word → Run (List Part)
  run : Bool → List Statement → Run Unit
  read : Shell.Cursor → Run Unit
  start : Resolved → Run Nat
  stages : (State → State) → Option Nat → List Statement → Run (List Nat)
  isolated : State → List Statement → Run Nat

namespace Means

def exhausted : Means where
  expand _ _ := Run.stall
  run _ _ := Run.stall
  read _ := Run.stall
  start _ := Run.stall
  stages _ _ _ := Run.stall
  isolated _ _ := Run.stall

def marks (means : Means) (word : Word) : Run (List Mark) := do
  let parts ← means.expand false word
  pure (wholeField (← get) parts)

def text (means : Means) (word : Word) : Run String := do
  pure (fieldText (← means.marks word))

end Means

def patternFor (state : State) (marks : List Mark) : List Glyph :=
  if state.isOn "extglob" then Shell.groupPatternOf marks else Shell.patternOf marks

def Means.pattern (means : Means) (word : Word) : Run (List Glyph) := do
  let marks ← means.marks word
  pure (patternFor (← get) marks)

end ChartManifests.Program.Rich
