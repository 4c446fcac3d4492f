import ChartManifests.Program.State
/-!
What parameters of a rich shell hold: texts, lists and tables, some of which tell of the shell
itself. A parameter may stand for another one, by its name.
-/

namespace ChartManifests.Program

inductive ItemKey
  | index (number : Nat)
  | entry (key : String)
deriving DecidableEq, Repr

namespace Content

def drawers : Nat := 1024

def drawer (key : String) : Nat :=
  key.toList.foldl (fun hash character =>
    let code := character.toNat % 256
    let word := if code < 128 then code else code + (2 ^ 32 - 256)
    (hash * 16777619 % 2 ^ 32) ^^^ word) 2166136261 % drawers

def inDrawers (items : List (String × String)) : List (String × String) :=
  items.reverse.mergeSort fun left right => drawer left.1 ≤ drawer right.1

def entries : Content → List (String × String)
  | text value => [("0", value)]
  | list items => items.map fun (number, value) => (toString number, value)
  | table items => inDrawers items

def first? : Content → Option String
  | text value => some value
  | list items => items.lookup 0
  | table items => items.lookup "0"

def item? (content : Content) (key : ItemKey) : Option String :=
  match content, key with
  | text value, .index 0 | text value, .entry "0" => some value
  | list items, .index number => items.lookup number
  | table items, .entry key => items.lookup key
  | _, _ => none

def behind : Content → Nat
  | text _ => 1
  | list items => (items.getLast?.map fun item => item.1 + 1).getD 0
  | table _ => 0

def withItem (content? : Option Content) (key : ItemKey) (value : String) : Content :=
  match content?, key with
  | some (table items), .entry key => .table (Parameter.setEntry key value items)
  | some (table items), .index number => .table (Parameter.setEntry (toString number) value items)
  | some (list items), .index number => .list (Parameter.setItem number value items)
  | some (text old), .index number => .list (Parameter.setItem number value [(0, old)])
  | _, .index number => .list [(number, value)]
  | _, .entry key => .table [(key, value)]

def withoutItem (content : Content) (key : ItemKey) : Content :=
  match content, key with
  | list items, .index number => .list (items.filter (·.1 ≠ number))
  | table items, .entry key => .table (items.filter (·.1 ≠ key))
  | other, _ => other

end Content

def optionLetters : List (String × Char) :=
  [("allexport", 'a'), ("braceexpand", 'B'), ("errexit", 'e'), ("errtrace", 'E'),
    ("functrace", 'T'), ("hashall", 'h'), ("histexpand", 'H'), ("keyword", 'k'), ("monitor", 'm'),
    ("noclobber", 'C'), ("noexec", 'n'), ("noglob", 'f'), ("notify", 'b'), ("nounset", 'u'),
    ("onecmd", 't'), ("physical", 'P'), ("privileged", 'p'), ("verbose", 'v'), ("xtrace", 'x')]

def isSet (state : State) (name : String) : Bool :=
  match optionLetters.lookup name with
  | some letter => state.options.contains letter
  | none => state.isNamed name

def colonList (names : List String) : String :=
  ":".intercalate (names.mergeSort fun left right => left ≤ right)

namespace State

def listOf (values : List String) : Content :=
  .list (values.zipIdx.map fun (value, index) => (index, value))

def sources (extras : Extras) : List String :=
  extras.frames.map Frame.source ++ extras.script.toList

def told? (state : State) (extras : Extras) (name : String) : Option Content :=
  match name with
  | "LINENO" => some (.text (toString state.line))
  | "RANDOM" => some (.text (toString extras.random.1))
  | "SECONDS" =>
    some (.text (toString
      (extras.secondsFrom.2 + (state.clock - extras.secondsFrom.1) / 1000000)))
  | "BASHPID" => some (.text (toString state.identity))
  | "BASH_SUBSHELL" => some (.text (toString extras.depth))
  | "EPOCHSECONDS" => some (.text (toString (state.files.now / 1000000)))
  | "PIPESTATUS" => some (listOf (extras.statuses.map toString))
  | "FUNCNAME" =>
    if extras.frames.isEmpty then none
    else some (listOf (extras.frames.map Frame.name ++ extras.script.toList.map fun _ => "main"))
  | "BASH_SOURCE" => some (listOf (sources extras))
  | "BASH_LINENO" =>
    some (listOf (extras.frames.map (fun frame => toString frame.line)
      ++ extras.script.toList.map fun _ => "0"))
  | "DIRSTACK" => some (listOf (state.path :: extras.stack))
  | "GROUPS" => some (listOf ["0"])
  | "SHELLOPTS" =>
    let letters := (optionLetters.filter fun entry => state.options.contains entry.2).map Prod.fst
    some (.text (colonList (letters ++ extras.named)))
  | "BASHOPTS" => some (.text (colonList extras.switches))
  | "_" => some (.text extras.lastWord)
  | _ => none

def referred (state : State) : Nat → String → String
  | 0, name => name
  | bound + 1, name =>
    match state.find name with
    | some parameter =>
      match parameter.refers, parameter.value with
      | true, some next => if next = "" then name else referred state bound next
      | _, _ => name
    | none => name

def contentOf (state : State) (name : String) : Option Content :=
  match state.extras.bind fun extras => state.told? extras name with
  | some content => some content
  | none =>
    match state.find name with
    | some parameter => if parameter.blank then none else parameter.content
    | none => none

def entriesOf (state : State) (name : String) : List (String × String) :=
  ((state.contentOf name).map Content.entries).getD []

def isTable (state : State) (name : String) : Bool :=
  match (state.find name).bind Parameter.content with
  | some (.table _) => true
  | _ => false

def hasItems (state : State) (name : String) : Bool :=
  match (state.contentOf name).or ((state.find name).bind Parameter.content) with
  | some (.list _) | some (.table _) => true
  | _ => false

def storeItem (state : State) (name : String) (key : ItemKey) (value : String) : State :=
  state.change name fun parameter =>
    { parameter with
      blank := false
      content := some (Content.withItem parameter.content key value)
      exported := parameter.exported || state.options.contains 'a' }

def removeItem (state : State) (name : String) (key : ItemKey) : State :=
  state.change name fun parameter =>
    { parameter with content := parameter.content.map fun content => content.withoutItem key }

end State

end ChartManifests.Program
