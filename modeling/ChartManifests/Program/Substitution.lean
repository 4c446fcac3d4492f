import ChartManifests.Program.Field
import ChartManifests.Program.State
import ChartManifests.Shell.Arithmetic
/-!
What parameters come to: the value of each, by its name or for a special character, and the parts
that it adds to a word.
-/

namespace ChartManifests.Program

def separators (state : State) : List Char :=
  match state.value? "IFS" with
  | some text => text.toList
  | none => [' ', '\t', '\n']

def optionOrder : List Char :=
  ['e', 'f', 'I', 'i', 'm', 'n', 's', 'x', 'v', 'V', 'E', 'C', 'a', 'b', 'u']

def parameterValue (state : State) (name : String) : Option String :=
  match name with
  | "#" => some (toString state.arguments.length)
  | "?" => some (toString state.status)
  | "$" => some (toString state.shell)
  | "-" => some (String.ofList (optionOrder.filter state.options.contains))
  | "!" => state.latest.map toString
  | "0" => some state.title
  | "@" | "*" => if state.arguments.isEmpty then none else some (" ".intercalate state.arguments)
  | _ =>
    match name.toNat? with
    | some number => state.arguments[number - 1]?
    | none => state.value? name

def joint (state : State) : String :=
  match state.value? "IFS" with
  | some text => String.ofList (text.toList.take 1)
  | none => " "

def together (state : State) (values : List String) : String := (joint state).intercalate values

def argumentsTogether (state : State) : String := together state state.arguments

def listParts (state : State) (values : List String) (whole quoted : Bool) : List Part :=
  if quoted && whole then Part.ofQuoted (together state values).toList
  else if quoted then [Part.cut].intercalate (values.map fun word => Part.ofQuoted word.toList)
  else [Part.cut].intercalate (values.map fun word => Part.ofText word.toList false true)

def argumentParts (state : State) (name : String) (quoted : Bool) : List Part :=
  listParts state state.arguments (name = "*") quoted

def valueParts (value : String) (quoted : Bool) : List Part :=
  if quoted then Part.ofQuoted value.toList else Part.ofText value.toList false true

def gap : Char := '\x00'

/-- Takes the shortest or longest beginning that a pattern stands for away from arguments: it is
looked for in the first argument, but the longest one is thought to reach as far as all of them if
the first argument fits as a whole. -/
def trimStartJoined (longest : Bool) (pattern : List Shell.Glyph) (characters : List Char) :
    List Char :=
  let first := (characters.takeWhile (· ≠ gap)).length
  let lengths := if longest then (List.range (characters.length + 1)).reverse
    else List.range (first + 1)
  let found := lengths.find? fun length =>
    Shell.fits pattern (characters.take (min length first))
  characters.drop (found.getD 0)

/-- Takes the shortest or longest end that a pattern stands for away from arguments: it is looked
for in every argument, the longest one in the first, and what is behind it goes too. -/
def trimEndJoined (longest : Bool) (pattern : List Shell.Glyph) (characters : List Char) :
    List Char :=
  let first := (characters.takeWhile (· ≠ gap)).length
  let lengths := if longest then List.range (first + 1)
    else (List.range (characters.length + 1)).reverse
  let found := lengths.find? fun length =>
    Shell.fits pattern ((characters.drop length).takeWhile (· ≠ gap))
  characters.take (found.getD characters.length)

/-- The parts of a value that a pattern takes something away from. Arguments that are fields of
their own are looked at together. -/
def trimmedParts (state : State) (name : String) (quoted : Bool) (value? : Option String)
    (trimJoined trim : List Char → List Char) : List Part :=
  let isJoined := name = "@" || (name = "*" && !quoted)
  if isJoined then
    let joined := [gap].intercalate (state.arguments.map String.toList)
    let parts (characters : List Char) : List Part :=
      if quoted then Part.ofQuoted characters else Part.ofText characters false true
    [Part.cut].intercalate ((Text.splitAt gap (trimJoined joined)).map parts)
  else
    let value := if name = "*" then argumentsTogether state else value?.getD ""
    valueParts (String.ofList (trim value.toList)) quoted

def wholeField (state : State) (parts : List Part) : List Shell.Mark :=
  parts.flatMap fun part => match part with
    | .character value quoted _ => [(value, quoted)]
    | .cut => (joint state).toList.map fun character => (character, true)
    | .mark => []

def numberIn (state : State) : Shell.Arithmetic.Lookup := fun name =>
  let text := (parameterValue state name).getD ""
  match Shell.Arithmetic.integer? text with
  | some value => .ok value
  | none => .error (.illegalNumber text)

end ChartManifests.Program
