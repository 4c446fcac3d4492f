import ChartManifests.Shell.Pattern
/-!
What the pieces of a word come to, and the fields that it is split into. A quoted character is never
a place to split, and quotes make a field even where nothing is in them.
-/

namespace ChartManifests.Program

inductive Part
  | character (value : Char) (quoted splits : Bool)
  | mark
  | cut
deriving DecidableEq, Repr

namespace Part

def ofText (characters : List Char) (quoted splits : Bool) : List Part :=
  characters.map fun value => character value quoted splits

def ofQuoted (characters : List Char) : List Part := mark :: ofText characters true false

end Part

abbrev Begun := Option (List Shell.Mark)

def finished (begun : Begun) : List (List Shell.Mark) :=
  match begun with
  | some marks => [marks.reverse]
  | none => []

def isFieldBlank (character : Char) : Bool :=
  character = ' ' || character = '\t' || character = '\n'

/-- Splits parts into fields at the separators. Blanks around a separator belong to it; `ended`
tells that the field before was ended by blanks alone. -/
def splitFields (separators : List Char) : Begun → Bool → List Part → List (List Shell.Mark)
  | begun, _, [] => finished begun
  | begun, _, .cut :: rest => finished begun ++ splitFields separators none false rest
  | begun, _, .mark :: rest => splitFields separators (some (begun.getD [])) false rest
  | begun, ended, .character value quoted splits :: rest =>
    if splits && separators.contains value then
      if isFieldBlank value then
        finished begun ++ splitFields separators none (ended || begun.isSome) rest
      else
        let field := match begun with
          | some marks => [marks.reverse]
          | none => if ended then [] else [[]]
        field ++ splitFields separators none false rest
    else
      splitFields separators (some ((value, quoted) :: begun.getD [])) false rest

def fieldText (marks : List Shell.Mark) : String := String.ofList (marks.map Prod.fst)

end ChartManifests.Program
