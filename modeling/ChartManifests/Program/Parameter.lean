import ChartManifests.Number.Whole
import ChartManifests.Text.Utf8
/-!
Parameters of a shell: texts by name, or texts by numbers or keys below a name. A parameter can be
handed on to the programs that are started, and it can be closed to changes. One without content is
known by what is marked on it only.
-/

namespace ChartManifests.Program

inductive Content
  | text (value : String)
  | list (items : List (Nat × String))
  | table (items : List (String × String))
deriving DecidableEq, Repr

inductive Letters
  | kept
  | lower
  | upper
deriving DecidableEq, Repr

def Letters.applied (letters : Letters) (text : String) : String :=
  match letters with
  | kept => text
  | lower => String.ofList (text.toList.map Char.toLower)
  | upper => String.ofList (text.toList.map Char.toUpper)

/-- A parameter. What is assigned to an `integer` is worked out first, and one that `refers` stands
for the parameter that it names. A `blank` one has a kind of content and none in it yet. -/
structure Parameter where
  name : String
  content : Option Content
  exported : Bool
  fixed : Bool
  integer : Bool
  letters : Letters
  refers : Bool
  blank : Bool
deriving DecidableEq, Repr

namespace Parameter

def unknown (name : String) : Parameter :=
  ⟨name, none, false, false, false, .kept, false, false⟩

def value (parameter : Parameter) : Option String :=
  match parameter.content with
  | some (.text value) => some value
  | some (.list items) => items.lookup 0
  | some (.table items) => items.lookup "0"
  | none => none

def hasText (parameter : Parameter) : Bool :=
  match parameter.content with
  | some (.text _) => true
  | _ => false

def setItem (number : Nat) (value : String) : List (Nat × String) → List (Nat × String)
  | [] => [(number, value)]
  | item :: rest =>
    if item.1 < number then item :: setItem number value rest
    else (number, value) :: (if item.1 = number then rest else item :: rest)

def setEntry (key value : String) : List (String × String) → List (String × String)
  | [] => [(key, value)]
  | entry :: rest =>
    if entry.1 = key then (key, value) :: rest else entry :: setEntry key value rest

def holding (parameter : Parameter) (value : String) : Parameter :=
  { parameter with
    blank := false
    content := some (match parameter.content with
      | some (.list items) => .list (setItem 0 value items)
      | some (.table items) => .table (setEntry "0" value items)
      | _ => .text value) }

end Parameter

def isParameterName (text : String) : Bool :=
  match text.toList with
  | first :: rest =>
    (first.isAlpha || first = '_')
      && rest.all fun character => character.isAlphanum || character = '_'
  | [] => false

namespace Parameter

def drawers : Nat := 39

def drawer (name : String) : Nat :=
  let codes := name.toList.map Char.toNat
  (16 * codes.headD 0 + totalOf codes) % drawers

def byDrawer (parameters : List Parameter) : List Parameter :=
  (List.range drawers).flatMap fun number =>
    parameters.filter fun parameter => drawer parameter.name = number

def handedOn (parameters : List Parameter) : List (String × String) :=
  (parameters.filter exported).filterMap fun parameter =>
    parameter.value.map fun value => (parameter.name, value)

def quotedFrom : Nat → List Char → List Char
  | 0, _ => []
  | bound + 1, characters =>
    let plain := characters.takeWhile (· ≠ '\'')
    let quotes := (characters.drop plain.length).takeWhile (· = '\'')
    let rest := characters.drop (plain.length + quotes.length)
    let shown := ['\''] ++ plain ++ ['\'']
    if quotes.isEmpty then shown
    else
      shown ++ ['"'] ++ quotes ++ ['"'] ++ (if rest.isEmpty then [] else quotedFrom bound rest)

def quoted (text : String) : String :=
  String.ofList (quotedFrom (text.length + 1) text.toList)

def line (opening : String) (parameter : Parameter) : String :=
  opening ++ parameter.name
    ++ (match parameter.value with
      | some value => "=" ++ quoted value
      | none => "")
    ++ "\n"

def listing (opening : String) (parameters : List Parameter) : String :=
  let sorted := parameters.mergeSort fun left right => left.name ≤ right.name
  String.join (sorted.map (line opening))

end Parameter

end ChartManifests.Program
