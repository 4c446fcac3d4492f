import ChartManifests.Number.Numeral
import ChartManifests.Number.Shortest
import ChartManifests.Text.Quoted
import ChartManifests.Value
/-!
Values as text. `shown?` is the form inside a message, with text between quotes; `written?` is the
form that a value takes when it is turned into a text itself. A collection inside itself is shown
as dots between its brackets. A value with an integer of too many digits has neither form.
-/

namespace ChartManifests.Value

def repeated : Bracket → String
  | .square => "[...]"
  | .curly => "\x7b...\x7d"

def enclosed (opening closing : String) (parts : List String) : String :=
  opening ++ ", ".intercalate parts ++ closing

def isOpen (path : List Nat) : Option Nat → Bool
  | some anchor => path.contains anchor
  | none => false

def openedBy (path : List Nat) : Option Nat → List Nat
  | some anchor => anchor :: path
  | none => path

def digits? (number : Int) : Option String :=
  if number.natAbs < 10 ^ Numeral.digitLimit then some (toString number) else none

mutual

def showWithin? (path : List Nat) : Value → Option String
  | null => some "None"
  | boolean truth => some (if truth then "True" else "False")
  | integer number => digits? number
  | double number => some number.text
  | undefined _ => some Double.notANumber.text
  | text content => some (Text.quoted content)
  | bytes content => some (Text.quotedBytes content)
  | date day => some day.shown
  | moment time => some time.shown
  | list anchor items =>
    if isOpen path anchor then some (repeated .square)
    else (showItems? (openedBy path anchor) items).map (enclosed "[" "]")
  | tuple items =>
    (showItems? path items).map fun
      | [single] => "(" ++ single ++ ",)"
      | parts => enclosed "(" ")" parts
  | set items =>
    (showItems? path items).map fun
      | [] => "set()"
      | parts => enclosed "\x7b" "\x7d" parts
  | map anchor entries =>
    if isOpen path anchor then some (repeated .curly)
    else (showEntries? (openedBy path anchor) entries).map (enclosed "\x7b" "\x7d")
  | again bracket _ => some (repeated bracket)

def showItems? (path : List Nat) : List Value → Option (List String)
  | [] => some []
  | item :: rest => do
    let shown ← showWithin? path item
    let others ← showItems? path rest
    some (shown :: others)

def showEntries? (path : List Nat) : List (Value × Value) → Option (List String)
  | [] => some []
  | (key, value) :: rest => do
    let shownKey ← showWithin? path key
    let shownValue ← showWithin? path value
    let others ← showEntries? path rest
    some ((shownKey ++ ": " ++ shownValue) :: others)

end

def shown? (value : Value) : Option String := showWithin? [] value

/-- A value turned into a text: text as it is, dates and times in their written form, everything
else as in a message. -/
def written? : Value → Option Text
  | text content => some content
  | date day => some day.text
  | moment time => some time.text
  | value => value.shown?.map Text.ofString

end ChartManifests.Value
