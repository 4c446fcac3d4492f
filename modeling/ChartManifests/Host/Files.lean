import ChartManifests.Host.Entry
import ChartManifests.Host.FileFault
import ChartManifests.Text.Split
/-!
The tree of files and directories. A place in the tree is the list of names that lead to it from the
root. A tree lists which node stands where, each place once; two places can share a node. Removing a
directory removes what is below it. Names and paths are bytes, each as a character.

A path leads to a place step by step, and every step must start in a directory, so `x/..` leads
nowhere unless `x` is a directory. A link on the way leads to where its target does.
-/

namespace ChartManifests

abbrev Location := List String

/-- The tree: what places there are, what stands in them, and what time it is. Every place has a
node. -/
structure Files where
  places : List (Location × Nat)
  nodes : Array Node
  now : Nat
  sound : ∀ place ∈ places, place.2 < nodes.size := by simp
deriving DecidableEq, Repr

namespace Files

def beginning : Nat := 1767225600000000

def empty : Files where
  places := []
  nodes := #[]
  now := beginning

def number? (files : Files) (location : Location) : Option Nat := files.places.lookup location

def node? (files : Files) (location : Location) : Option Node :=
  (files.number? location).bind fun number => files.nodes[number]?

def standing? (files : Files) (location : Location) : Option Entry :=
  (files.node? location).map Node.entry

def modeAt (files : Files) (location : Location) : Nat :=
  ((files.node? location).map Node.mode).getD 0

theorem number?_lt {files : Files} {location : Location} {number : Nat}
    (found : files.number? location = some number) : number < files.nodes.size := by
  obtain ⟨before, after, split, _⟩ := List.lookup_eq_some_iff.mp found
  exact files.sound (location, number) (by simp [split])

def bind (files : Files) (location : Location) (number : Nat)
    (present : number < files.nodes.size) : Files where
  places := files.places.filter (·.1 ≠ location) ++ [(location, number)]
  nodes := files.nodes
  now := files.now
  sound := by
    intro place member
    rcases List.mem_append.mp member with kept | bound
    · exact files.sound place (List.mem_filter.mp kept).1
    · rw [List.mem_singleton.mp bound]
      exact present

def add (files : Files) (location : Location) (entry : Entry) (mode : Nat) : Files :=
  let grown : Files := {
    places := files.places
    nodes := files.nodes.push ⟨entry, mode, files.now⟩
    now := files.now
    sound := fun place member => by
      have below := files.sound place member
      rw [Array.size_push]
      omega }
  grown.bind location files.nodes.size (by simp [grown])

def share (files : Files) (first second : Location) : Files :=
  match found : files.number? first with
  | some number => files.bind second number (number?_lt found)
  | none => files

def changeNode (files : Files) (number : Nat) (change : Node → Node) : Files :=
  { files with
    nodes := files.nodes.modify number change
    sound := by simpa using files.sound }

def change (files : Files) (location : Location) (change : Node → Node) : Files :=
  match files.number? location with
  | some number => files.changeNode number change
  | none => files

def setContent (files : Files) (number : Nat) (content : Text.Bytes) : Files :=
  files.changeNode number fun node => { node with entry := .file content, changed := files.now }

def bytesOf? (files : Files) (number : Nat) : Option Text.Bytes :=
  match files.nodes[number]?.map Node.entry with
  | some (.file content) => some content
  | _ => none

def erase (files : Files) (location : Location) : Files :=
  { files with
    places := files.places.filter fun place => !location.isPrefixOf place.1
    sound := fun place member => files.sound place (List.mem_filter.mp member).1 }

def move (files : Files) (source target : Location) : Files :=
  let moved := files.places.filterMap fun place =>
    if source.isPrefixOf place.1 then some (target ++ place.1.drop source.length, place.2)
    else none
  let cleared := (files.erase source).erase target
  { cleared with
    places := cleared.places ++ moved
    sound := by
      intro place member
      rcases List.mem_append.mp member with kept | brought
      · exact cleared.sound place kept
      · obtain ⟨origin, present, found⟩ := List.mem_filterMap.mp brought
        split at found
        · rw [← Option.some.inj found]
          exact files.sound origin present
        · simp at found }

def sharing (files : Files) (number : Nat) : Nat :=
  (files.places.filter (·.2 = number)).length

def isDirectory (files : Files) (location : Location) : Bool :=
  files.standing? location = some .directory

def removeDirectory (files : Files) (location : Location) : Files :=
  if files.isDirectory location then files.erase location else files

def longestName : Nat := 255

def longestPath : Nat := 4096

def longestChain : Nat := 40

def separator : Char := '/'

def pathTo (location : Location) : String :=
  if location.isEmpty then "/" else String.join (location.map fun name => "/" ++ name)

def wayBetween : Location → Location → List String
  | first :: rest, second :: others =>
    if first = second then wayBetween rest others
    else (first :: rest).map (fun _ => "..") ++ second :: others
  | start, goal => start.map (fun _ => "..") ++ goal

def pathFrom (start goal : Location) : String :=
  let way := wayBetween start goal
  if way.isEmpty then "." else "/".intercalate way

/-- The steps that a path prescribes. A slash at the end asks for a directory, like a dot. -/
def steps (text : String) : List String :=
  let parts := (Text.splitAt separator text.toList).map String.ofList
  let ending := if parts.getLast? = some "" ∧ parts.length ≠ 1 then ["."] else []
  parts.filter (· ≠ "") ++ ending

def origin (current : Location) (text : String) : Location :=
  if text.toList.head? = some separator then [] else current

/-- Follows steps from a place. A link is handed to `onLink`, with where it stands and the steps
behind it; at the end it only is if `through` is set. -/
def walk (files : Files) (through : Bool)
    (onLink : Location → String → List String → Except FileFault Location) :
    Location → List String → Except FileFault Location
  | here, [] => .ok here
  | here, name :: rest =>
    match files.standing? here with
    | none => .error .missing
    | some .directory =>
      if longestName < name.length then .error .nameTooLong
      else if name = "." then walk files through onLink here rest
      else if name = ".." then walk files through onLink here.dropLast rest
      else
        match files.standing? (here ++ [name]) with
        | some (.link target) =>
          if rest.isEmpty && !through then .ok (here ++ [name]) else onLink here target rest
        | _ => walk files through onLink (here ++ [name]) rest
    | some _ => .error .notDirectory

def follow (files : Files) (through : Bool) :
    Nat → Location → List String → Except FileFault Location
  | 0 => files.walk through fun _ _ _ => .error .tooManyLinks
  | count + 1 => files.walk through fun here target rest =>
    if target = "" then .error .missing
    else follow files through count (origin here target) (steps target ++ rest)

/-- The place that a path leads to; nothing need stand there. A link at its end is followed if
`through` is set. -/
def placeOf (files : Files) (through : Bool) (current : Location) (text : String) :
    Except FileFault Location :=
  if text = "" then .error .missing
  else if longestPath ≤ text.length then .error .nameTooLong
  else files.follow through longestChain (origin current text) (steps text)

def locate (files : Files) : Location → String → Except FileFault Location := files.placeOf true

def locateItself (files : Files) : Location → String → Except FileFault Location :=
  files.placeOf false

def occupied (files : Files) (location : Location) : Except FileFault (Location × Entry) :=
  match files.standing? location with
  | some entry => .ok (location, entry)
  | none => .error .missing

def find (files : Files) (current : Location) (text : String) :
    Except FileFault (Location × Entry) := do
  files.occupied (← files.locate current text)

def findItself (files : Files) (current : Location) (text : String) :
    Except FileFault (Location × Entry) := do
  files.occupied (← files.locateItself current text)

def hasDirectory (files : Files) (current : Location) (text : String) : Bool :=
  !text.toList.contains '\x00' &&
    match files.find current text with
    | .ok (_, entry) => entry = .directory
    | .error _ => false

structure PathFault where
  fault : FileFault
  path : String
deriving DecidableEq, Repr

def withoutEnd (text : String) : String :=
  let characters := (text.toList.reverse.dropWhile (· = separator)).reverse
  if characters.isEmpty then text else String.ofList characters

def createDirectory (files : Files) (mode : Nat) (current : Location) (text : String) :
    Except FileFault Files := do
  let location ← files.locateItself current (withoutEnd text)
  match files.standing? location with
  | some _ => .error .occupied
  | none => .ok (files.add location .directory mode)

/-- The beginnings of a path that end with one of its names, the shortest first; `before` is what
stands in front. -/
def beginnings (before : List Char) : List Char → List String
  | [] => []
  | character :: rest =>
    let upTo := before ++ [character]
    let ends := rest.head? = none || rest.head? = some separator
    if character ≠ separator && ends then String.ofList upTo :: beginnings upTo rest
    else beginnings upTo rest

def ancestry (text : String) : List String := (beginnings [] text.toList).dropLast ++ [text]

/-- Creates directories one after the other, the last one with permissions of its own. One that is
there already is left, and so is anything else that stands in front of a later one. -/
def createEach (files : Files) (outer inner : Nat) (current : Location) :
    List String → Except PathFault Files
  | [] => .ok files
  | path :: rest =>
    match files.createDirectory (if rest.isEmpty then inner else outer) current path with
    | .ok made => createEach made outer inner current rest
    | .error fault =>
      if files.hasDirectory current path || (fault = .occupied && !rest.isEmpty) then
        createEach files outer inner current rest
      else .error ⟨fault, path⟩

def usualDirectory : Nat := Permission.without Permission.usualMask Permission.ofDirectory

def makeDirectory (files : Files) (current : Location) (text : String) :
    Except PathFault Files :=
  files.createEach usualDirectory usualDirectory current (ancestry text)

/-- Stores a file in a place; the directory around it must be there. One that is there keeps its
permissions. -/
def store (files : Files) (location : Location) (content : Text.Bytes) (mode : Nat) :
    Except FileFault Files :=
  match files.number? location, files.standing? location with
  | _, some .directory => .error .isDirectory
  | some number, some (.file _) => .ok (files.setContent number content)
  | _, some _ => .ok files
  | _, none =>
    match files.standing? location.dropLast with
    | some .directory => .ok (files.add location (.file content) mode)
    | some _ => .error .notDirectory
    | none => .error .missing

def parentPath (text : String) : String :=
  let above := (text.toList.reverse.dropWhile (· ≠ separator)).reverse
  withoutEnd (String.ofList above)

def usualFile : Nat := Permission.without Permission.usualMask Permission.ofFile

def writeWithParents (files : Files) (current : Location) (text : String) (content : Text.Bytes)
    (executable : Bool) : Except PathFault Files := do
  let parent := parentPath text
  let ready ← if parent = "" then .ok files else files.makeDirectory current parent
  let written : Except FileFault Files := do
    let location ← ready.locate current text
    let stored ← ready.store location content usualFile
    .ok (if executable then stored.change location fun node => { node with mode := usualDirectory }
      else stored)
  written.mapError fun fault => ⟨fault, text⟩

/-- What writing a file to a path comes to: the tree with the file in it, or a device that takes the
bytes. -/
inductive Written
  | stored (files : Files)
  | taken (device : Device)

/-- Writes a file where a path leads to, in place of what it held. A file that is not there is
created, but not one whose path asks for a directory. -/
def replace (files : Files) (current : Location) (text : String) (content : Text.Bytes) :
    Except FileFault Written :=
  match files.find current text with
  | .ok (_, .device kind) => .ok (.taken kind)
  | .ok (_, .utility _) => .error .denied
  | .ok (location, _) => (files.store location content usualFile).map .stored
  | .error .missing =>
    if text ≠ "" ∧ text.toList.getLast? = some separator then .error .isDirectory
    else do
      let location ← files.locate current text
      (files.store location content usualFile).map .stored
  | .error fault => .error fault

def content? (files : Files) (current : Location) (text : String) : Option Text.Bytes :=
  match files.find current text with
  | .ok (_, .file content) => some content
  | _ => none

def namesIn (files : Files) (location : Location) : List String :=
  let names := files.places.filterMap fun place =>
    if place.1 ≠ [] ∧ place.1.dropLast = location then place.1.getLast? else none
  names.mergeSort fun left right => left ≤ right

end Files

end ChartManifests
