import ChartManifests.Host.Ordinary
import ChartManifests.Program.State
import ChartManifests.Shell.Reader
/-!
Home directories in place of tildes. A tilde stands for one at the beginning of a word, alone or
with the name of an account behind it; in a value it does so behind every colon too.
-/

namespace ChartManifests.Program

open Shell (Piece Word)

/-- The home directory of an account; without a name, of whoever runs the shell. In a rich shell a
plus stands for the current directory and a minus for the one before. -/
def homeOf (state : State) (name : List Char) : Option String :=
  match state.isRich, name with
  | true, [] => (state.value? "HOME").or (Account.home? "root")
  | true, ['+'] => state.value? "PWD"
  | true, ['-'] => state.value? "OLDPWD"
  | false, [] => state.value? "HOME"
  | _, _ => Account.home? (String.ofList name)

/-- Text with home directories in place of tildes. `here` tells that one may stand at the beginning,
`inValue` that colons divide the text, and `last` that nothing follows it. -/
def withHomes (state : State) (inValue last : Bool) : Nat → Bool → List Char → List Piece
  | 0, _, characters => [.text characters false]
  | _ + 1, _, [] => []
  | bound + 1, here, first :: rest =>
    let ends (character : Char) : Bool :=
      character = Files.separator || (inValue && character = ':')
    if here && first = '~' then
      let name := rest.takeWhile fun character => !ends character
      let behind := rest.drop name.length
      let others := withHomes state inValue last bound false behind
      match homeOf state name with
      | some home =>
        if behind.isEmpty && !last then [.text (first :: rest) false]
        else .text home.toList true :: others
      | none => .text (first :: name) false :: others
    else
      .text [first] false :: withHomes state inValue last bound (inValue && first = ':') rest

def homeWord (state : State) (inValue : Bool) (word : Word) : Word :=
  let rec go : Bool → Word → Word
    | _, [] => []
    | here, .text characters false :: rest =>
      let pieces := withHomes state inValue rest.isEmpty (characters.length + 1) here characters
      pieces.foldr Shell.consPiece (go false rest)
    | _, piece :: rest => piece :: go false rest
  go true word

def assignmentIn : Word → Option (List Char × Word)
  | .text characters false :: rest =>
    (Shell.assignedName characters).map fun name =>
      let value := characters.drop (name.length + 1)
      (name, if value.isEmpty then rest else .text value false :: rest)
  | _ => none

end ChartManifests.Program
