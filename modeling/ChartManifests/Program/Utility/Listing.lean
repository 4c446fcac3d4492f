import ChartManifests.Calendar.Clock
import ChartManifests.Host.Mode
import ChartManifests.Program.Escape
import ChartManifests.Program.Search
import ChartManifests.Program.Utility.Tree
import ChartManifests.Shell.Pattern
/-!
Utilities that tell what stands in the tree of files: the names in directories, the places that
paths lead to, and what is known of them.
-/

namespace ChartManifests.Program.Utility

open Text (Bytes)

def sizeOf : Entry → Nat
  | .file content => content.length
  | .directory => 4096
  | .link target => target.length
  | _ => 0

def blocksOf : Entry → Nat
  | .file content => (content.length + 4095) / 4096 * 4
  | .directory => 4
  | _ => 0

/-- How many places share the node in a place; of a directory they are the names that its own
entries have for it too. -/
def linkCount (files : Files) (location : Location) : Nat :=
  if files.isDirectory location then
    2 + ((files.namesIn location).filter fun name => files.isDirectory (location ++ [name])).length
  else ((files.number? location).map files.sharing).getD 1

def kindLetter : Entry → Char
  | .directory => 'd'
  | .device _ => 'c'
  | .link _ => 'l'
  | .queue => 'p'
  | _ => '-'

def modeText (node : Node) : String :=
  (kindLetter node.entry).toString ++ Permission.letters node.mode

def wholeMode (node : Node) : Nat :=
  (match node.entry with
    | .directory => 0o40000
    | .device _ => 0o20000
    | .link _ => 0o120000
    | .queue => 0o10000
    | _ => 0o100000) ||| node.mode

def clockOf (time : Nat) : Nat × Nat × Nat := Clock.hoursOf (time / Calendar.second)

def listedTime (now time : Nat) : String :=
  let date := Clock.dayOf (time / Calendar.second / 86400)
  let (hour, minute, _) := clockOf time
  let isRecent := time ≤ now && now < time + 15778476 * Calendar.second
  Clock.monthName date.month ++ " " ++ alignedNumber 2 date.day ++ " "
    ++ (if isRecent then Calendar.padded 2 hour ++ ":" ++ Calendar.padded 2 minute
      else alignedNumber 5 date.year)

def wholeTime (time : Nat) : String :=
  let (hour, minute, second) := clockOf time
  (Clock.dayOf (time / Calendar.second / 86400)).text ++ " " ++ Calendar.padded 2 hour ++ ":"
    ++ Calendar.padded 2 minute ++ ":" ++ Calendar.padded 2 second ++ "."
    ++ Calendar.padded 6 (time % Calendar.second) ++ "000 +0000"

def listOptions : Options where
  alone := "aAbBcCdDfFgGhHiklLmnNopqQrRsStuUvxXZ1"
  valued := "ITw!"
  long := [("all", 'a'), ("almost-all", 'A'), ("directory", 'd'), ("classify", 'F'),
    ("recursive", 'R'), ("reverse", 'r'), ("ignore", 'I'), ("color", '!'), ("size", 's'),
    ("human-readable", 'h'), ("numeric-uid-gid", 'n'), ("no-group", 'G'), ("dereference", 'L'),
    ("inode", 'i'), ("quote-name", 'Q')]
  status := 2
  first := false

structure Listed where
  name : String
  location : Location

def isLong (given : Given) : Bool :=
  given.lastOf? ['l', 'n', 'g', 'o', '1', 'm', 'C', 'x'] |>.any fun letter =>
    ['l', 'n', 'g', 'o'].contains letter

def Listed.node (listed : Listed) (given : Given) (files : Files) : Node :=
  let own := (files.node? listed.location).getD ⟨.file [], 0, 0⟩
  match own.entry, given.has 'L' with
  | .link _, true =>
    match files.find [] (Files.pathTo listed.location) with
    | .ok (location, _) => (files.node? location).getD own
    | .error _ => own
  | _, _ => own

def markOf (given : Given) (node : Node) : String :=
  match node.entry with
  | .directory => if given.has 'F' || given.has 'p' then "/" else ""
  | .link _ => if given.has 'F' then "@" else ""
  | .queue => if given.has 'F' then "|" else ""
  | .device _ => ""
  | _ => if given.has 'F' && Permission.allowsRunning node.mode then "*" else ""

def listedOrder (given : Given) (files : Files) (entries : List Listed) : List Listed :=
  let byName := entries.mergeSort fun left right => left.name ≤ right.name
  let node (listed : Listed) : Node := listed.node given files
  let ending (listed : Listed) : List Char :=
    let tail := listed.name.toList.reverse.takeWhile (· ≠ '.')
    if tail.length = listed.name.length then [] else tail.reverse
  let sorted :=
    if given.has 'U' || given.has 'f' then entries
    else
      match given.lastOf? ['S', 't', 'X'] with
      | some 'S' =>
        byName.mergeSort fun left right => sizeOf (node right).entry ≤ sizeOf (node left).entry
      | some 't' => byName.mergeSort fun left right => !(node right).isNewer (node left)
      | some _ =>
        byName.mergeSort fun left right =>
          String.ofList (ending left) ≤ String.ofList (ending right)
      | none => byName
  if given.has 'r' then sorted.reverse else sorted

/-- Names one behind the other, with a comma between them, in lines that are not too long. `used` is
how much of the line is full. -/
def inRow : Nat → List String → String
  | _, [] => "\n"
  | used, name :: rest =>
    let size := name.length
    if used = 0 then name ++ inRow size rest
    else if used + size + 2 < 80 then ", " ++ name ++ inRow (used + size + 2) rest
    else ",\n" ++ name ++ inRow size rest

def listedName (given : Given) (name : String) : String :=
  if given.has 'Q' then
    "\"" ++ String.ofList (name.toList.flatMap fun character =>
      if character = '"' ∨ character = '\\' then ['\\', character] else [character]) ++ "\""
  else name

def briefSize (size : Nat) : String :=
  let rec go : Nat → Nat → List String → String
    | whole, _, [] => toString whole
    | whole, scale, unit :: rest =>
      if whole < 1024 * scale then
        let tenths := (whole * 10 + scale - 1) / scale
        if scale = 1 then toString whole
        else if tenths < 100 then
          toString (tenths / 10) ++ "." ++ toString (tenths % 10) ++ unit
        else toString ((whole + scale - 1) / scale) ++ unit
      else go whole (scale * 1024) rest
  go size 1 ["", "K", "M", "G", "T"]

def leftAligned (width : Nat) (text : String) : String :=
  text ++ String.ofList (List.replicate (width - text.length) ' ')

def rightAligned (width : Nat) (text : String) : String :=
  String.ofList (List.replicate (width - text.length) ' ') ++ text

def longLines (given : Given) (files : Files) (entries : List Listed) : String :=
  let rows := entries.map fun listed =>
    let node := listed.node given files
    let owner := if given.has 'n' then "0" else "root"
    let size := match node.entry with
      | .device _ => "1, 3"
      | entry => if given.has 'h' then briefSize (sizeOf entry) else toString (sizeOf entry)
    let target := match node.entry with
      | .link target => " -> " ++ listedName given target
      | _ => ""
    let mark := match node.entry with
      | .link _ => ""
      | _ => markOf given node
    ([toString (linkCount files listed.location), owner, owner, size], modeText node,
      listedTime files.now node.changed, listedName given listed.name ++ mark ++ target)
  let width (index : Nat) : Nat :=
    (rows.map fun row => ((row.1[index]?).getD "").length).foldl max 0
  String.join (rows.map fun (cells, mode, time, name) =>
    let cell (index : Nat) : String := (cells[index]?).getD ""
    let owner := if given.has 'g' then "" else leftAligned (width 1) (cell 1) ++ " "
    let group := if given.has 'o' || given.has 'G' then ""
      else leftAligned (width 2) (cell 2) ++ " "
    mode ++ " " ++ rightAligned (width 0) (cell 0) ++ " " ++ owner ++ group
      ++ rightAligned (width 3) (cell 3) ++ " " ++ time ++ " " ++ name ++ "\n")

def shownEntries (given : Given) (files : Files) (entries : List Listed) : String :=
  if isLong given then longLines given files entries
  else
    let names := entries.map fun listed =>
      listedName given listed.name ++ markOf given (listed.node given files)
    if given.has 'm' && !names.isEmpty then inRow 0 names
    else String.join (names.map (· ++ "\n"))

def namesShown (given : Given) (files : Files) (location : Location) : List Listed :=
  let names := files.namesIn location
  let isHidden (name : String) : Bool := name.toList.head? = some '.'
  let visible := if given.has 'a' || given.has 'A' || given.has 'f' then names
    else names.filter fun name => !isHidden name
  let ignored := (given.filter fun entry => entry.1 = 'I').map fun entry =>
    Shell.patternOf (entry.2.toList.map fun character => (character, false))
  let left := visible.filter fun name =>
    !(ignored.any fun pattern => Shell.fits pattern name.toList)
      && !(given.has 'B' && name.toList.getLast? = some '~')
  let special : List Listed :=
    if given.lastOf? ['a', 'A', 'f'] = some 'a' || given.has 'f' then
      [⟨".", location⟩, ⟨"..", location.dropLast⟩]
    else []
  listedOrder given files (special ++ left.map fun name => ⟨name, location ++ [name]⟩)

def directoriesBelow (given : Given) (files : Files) : Nat → Listed → List Listed
  | 0, directory => [directory]
  | bound + 1, directory =>
    if !given.has 'R' then [directory]
    else
      let inner := (namesShown given files directory.location).filter fun entry =>
        entry.name ≠ "." && entry.name ≠ ".." && files.isDirectory entry.location
      directory :: inner.flatMap fun entry =>
        directoriesBelow given files bound
          ⟨joinPath directory.name entry.name, entry.location⟩

/-- What an operand stands for: a link to a directory stands for the directory, unless links
themselves are looked at. -/
def listedOperand (given : Given) (path : String) : Run (Except FileFault (Location × Entry)) := do
  let itself := isLong given || given.has 'd' || given.has 'F'
  if given.has 'L' || given.has 'H' then lookUp path
  else
    match ← lookUp path, ← lookUpItself path with
    | .ok (location, .directory), own =>
      pure (if itself then own else .ok (location, .directory))
    | _, own => pure own

def ls (arguments : List String) : Run Nat := do
  let (given, operands) ← listOptions.read arguments
  let files := (← get).files
  let mut status := 0
  let mut single : List Listed := []
  let mut directories : List Listed := []
  for path in if operands.isEmpty then ["."] else operands do
    match ← listedOperand given path with
    | .ok (location, .directory) =>
      if given.has 'd' then single := single ++ [⟨path, location⟩]
      else directories := directories ++ [⟨path, location⟩]
    | .ok (location, _) => single := single ++ [⟨path, location⟩]
    | .error fault => do
      complain ("cannot access " ++ Text.quotedName path ++ ": " ++ fault.wording)
      status := 2
  putText (shownEntries given files (listedOrder given files single))
  let listed := (listedOrder given files directories).flatMap
    (directoriesBelow given files files.places.length)
  let titled := 1 < operands.length || given.has 'R'
  for (directory, index) in listed.zipIdx do
    let gap := if index = 0 ∧ single.isEmpty then "" else "\n"
    let entries := namesShown given files directory.location
    let blocks := totalOf (entries.map fun entry => blocksOf (entry.node given files).entry)
    putText ((if titled then gap ++ directory.name ++ ":\n" else "")
      ++ (if isLong given then "total " ++ (if given.has 'h' then briefSize (blocks * 1024)
        else toString blocks) ++ "\n" else "")
      ++ shownEntries given files entries)
  pure status

def statOptions : Options where
  alone := "Lft"
  valued := "c!"
  long := [("dereference", 'L'), ("file-system", 'f'), ("terse", 't'), ("format", 'c'),
    ("printf", '!')]
  status := 1
  first := false

def told (files : Files) (path : String) (location : Location) (node : Node) : Char → String
  | 'n' => path
  | 'N' =>
    match node.entry with
    | .link target => Text.quotedName path ++ " -> " ++ Text.quotedName target
    | _ => Text.quotedName path
  | 's' => toString (sizeOf node.entry)
  | 'b' => toString (2 * blocksOf node.entry)
  | 'B' => "512"
  | 'o' => "4096"
  | 'F' => kindName node.entry
  | 'a' => Permission.digits 1 node.mode
  | 'A' => modeText node
  | 'f' => String.ofList (Nat.toDigits 16 (wholeMode node))
  | 'h' => toString (linkCount files location)
  | 'i' => toString ((files.number? location).getD 0 + 1)
  | 'u' | 'g' | 't' | 'T' => "0"
  | 'U' | 'G' => "root"
  | 'X' | 'Y' | 'Z' => toString (node.changed / Calendar.second)
  | 'x' | 'y' | 'z' => wholeTime node.changed
  | 'w' => "-"
  | 'W' => "0"
  | 'm' => "/"
  | '%' => "%"
  | _ => "?"

/-- What a format tells of a place. A number behind the percent sign is the least width, and a dash
in front of the number puts the blanks behind. -/
def describedBy (tell : Char → String) : Nat → List Char → String
  | 0, _ => ""
  | _ + 1, [] => ""
  | bound + 1, '%' :: rest =>
    let flags := rest.takeWhile ("-0+# ".toList.contains ·)
    let behind := rest.drop flags.length
    let digits := behind.takeWhile Char.isDigit
    let width := (String.ofList digits).toNat?.getD 0
    match behind.drop digits.length with
    | [] => "%"
    | letter :: more =>
      let text := tell letter
      let shown :=
        if flags.contains '-' then leftAligned width text
        else if flags.contains '0' then
          String.ofList (List.replicate (width - text.length) '0') ++ text
        else rightAligned width text
      shown ++ describedBy tell bound more
  | bound + 1, character :: rest => character.toString ++ describedBy tell bound rest

def stat (arguments : List String) : Run Nat := do
  let (given, operands) ← statOptions.read arguments
  if operands.isEmpty then missing 1
  onAll operands fun path => do
    let files := (← get).files
    match ← if given.has 'L' then lookUp path else lookUpItself path with
    | .ok (location, _) => do
      let node := (files.node? location).getD ⟨.file [], 0, 0⟩
      let format := ((given.lastOf? ['c', '!']).bind given.last?).getD "%n"
      let characters := format.toList
      let tell := told files path location node
      if given.lastOf? ['c', '!'] = some '!' then
        put (escapedText .standalone (format.length + 1) characters
          |>.1 |> Text.charactersOf |> describedBy tell (format.length + 1) |> Text.octets)
      else putText (describedBy tell (format.length + 1) characters ++ "\n")
      pure 0
    | .error fault => do
      complain ("cannot statx " ++ Text.quotedName path ++ ": " ++ fault.wording)
      pure 1

def looselyPlaced (files : Files) : Nat → Location → List String → Location
  | 0, here, _ => here
  | _ + 1, here, [] => here
  | bound + 1, here, name :: rest =>
    if name = "." then looselyPlaced files bound here rest
    else if name = ".." then looselyPlaced files bound here.dropLast rest
    else
      match files.standing? (here ++ [name]) with
      | some (.link target) =>
        looselyPlaced files bound (Files.origin here target) (Files.steps target ++ rest)
      | _ => looselyPlaced files bound (here ++ [name]) rest

inductive Presence
  | whole
  | parent
  | nothing
deriving DecidableEq, Repr

def longestWay : Nat := 10000

def placeOf (presence : Presence) (path : String) : Run (Except FileFault Location) := do
  let state ← get
  let files := state.files
  pure do
    if presence = .nothing then
      if path = "" then .error .missing
      else .ok (looselyPlaced files longestWay (Files.origin state.current path)
        (Files.steps path))
    else
      let location ← files.locate state.current
        (if presence = .parent && !files.hasDirectory state.current path
            && (files.find state.current (Files.withoutEnd path)).toOption.isNone
          then Files.withoutEnd path else path)
      match files.standing? location with
      | some _ => .ok location
      | none => if presence = .whole then .error .missing else .ok location

def realOptions : Options where
  alone := "eLmPqsz"
  valued := "!#"
  long := [("canonicalize-existing", 'e'), ("canonicalize-missing", 'm'), ("quiet", 'q'),
    ("strip", 's'), ("no-symlinks", 's'), ("relative-to", '!'), ("relative-base", '#'),
    ("zero", 'z')]
  status := 1
  first := false

def presenceAsked (given : Given) : Presence :=
  match given.lastOf? ['e', 'f', 'm'] with
  | some 'e' => .whole
  | some 'm' => .nothing
  | _ => .parent

def lexically (current : Location) (path : String) : Location :=
  (Files.steps path).foldl (fun here name =>
    if name = "." then here else if name = ".." then here.dropLast else here ++ [name])
    (Files.origin current path)

def realpath (arguments : List String) : Run Nat := do
  let (given, operands) ← realOptions.read arguments
  if operands.isEmpty then missing 1
  let presence := presenceAsked given
  let placed (path : String) : Run (Except FileFault Location) := do
    if given.has 's' then
      let state ← get
      match ← placeOf presence path with
      | .ok _ => pure (.ok (lexically state.current path))
      | .error fault => pure (.error fault)
    else placeOf presence path
  let base (letter : Char) : Run (Option Location) := do
    match given.last? letter with
    | none => pure none
    | some path =>
      match ← placed path with
      | .ok location => pure (some location)
      | .error fault => fail 1 (Text.shownName path ++ ": " ++ fault.wording)
  let relative ← base '!'
  let below ← base '#'
  onAll operands fun path => do
    match ← placed path with
    | .ok location => do
      let isInside := below.all (·.isPrefixOf location)
      let text := match isInside, relative.or below with
        | true, some start => Files.pathFrom start location
        | _, _ => Files.pathTo location
      putText (text ++ (if given.has 'z' then "\x00" else "\n"))
      pure 0
    | .error fault => do
      if !given.has 'q' then complain (Text.shownName path ++ ": " ++ fault.wording)
      pure 1

def readOptions : Options where
  alone := "efmnqsvz"
  valued := ""
  long := [("canonicalize", 'f'), ("canonicalize-existing", 'e'), ("canonicalize-missing", 'm'),
    ("no-newline", 'n'), ("quiet", 'q'), ("silent", 's'), ("verbose", 'v'), ("zero", 'z')]
  status := 1
  first := false

def readlink (arguments : List String) : Run Nat := do
  let (given, operands) ← readOptions.read arguments
  if operands.isEmpty then missing 1
  if given.has 'n' && 1 < operands.length then
    complain "ignoring --no-newline with multiple arguments"
  let ending := if given.has 'n' && operands.length = 1 then ""
    else if given.has 'z' then "\x00" else "\n"
  onAll operands fun path => do
    let result : Except FileFault String ←
      if given.has 'e' || given.has 'f' || given.has 'm' then do
        pure ((← placeOf (presenceAsked given) path).map Files.pathTo)
      else
        match ← lookUpItself path with
        | .ok (_, .link target) => pure (.ok target)
        | .ok _ => pure (.error .improper)
        | .error fault => pure (.error fault)
    match result with
    | .ok text => do
      putText (text ++ ending)
      pure 0
    | .error fault => do
      if given.has 'v' then complain (Text.shownName path ++ ": " ++ fault.wording)
      pure 1

def which (arguments : List String) : Run Nat := do
  let names := arguments.filter (· ≠ "-a")
  let state ← get
  let directories := (Text.splitAt ':' ((state.value? "PATH").getD "").toList).map String.ofList
  if names.isEmpty then pure 1
  else
    onAll names fun name => do
      let paths := if hasSlash name then [name]
        else directories.map fun directory => below directory name
      let found := paths.filter fun path =>
        (startable state.files state.current path).toOption.isSome
      for path in if arguments.contains "-a" then found else found.take 1 do
        putText (path ++ "\n")
      pure (if found.isEmpty then 1 else 0)

def compareOptions : Options where
  alone := "bls"
  valued := "in"
  long := [("print-bytes", 'b'), ("verbose", 'l'), ("quiet", 's'), ("silent", 's'), ("bytes", 'n')]
  status := 2
  first := false

def aligned (width : Nat) (digits : List Char) : String :=
  String.ofList (List.replicate (width - digits.length) ' ' ++ digits)

def differences (width : Nat) : Nat → Bytes → Bytes → String
  | number, left :: lefts, right :: rights =>
    let rest := differences width (number + 1) lefts rights
    if left = right then rest
    else
      aligned width (toString number).toList ++ " " ++ aligned 3 (Nat.toDigits 8 left.toNat) ++ " "
        ++ aligned 3 (Nat.toDigits 8 right.toNat) ++ "\n" ++ rest
  | _, _, _ => ""

def cmp (arguments : List String) : Run Nat := do
  let (given, operands) ← compareOptions.read arguments
  let limit := (given.last? 'n').bind sized?
  let contentAt (path : String) : Run Bytes := do
    match ← contentOf path with
    | .ok content => pure ((limit.map content.take).getD content)
    | .error fault => do
      if !given.has 's' then complain (plainComplaint path fault)
      throw (.exited 2)
  match operands with
  | [] => fail 2 ("missing operand after 'cmp'\n" ++ (← get).title ++ ": " ++ (← hint))
  | first :: others => do
    let second := others.headD "-"
    let left ← contentAt first
    let right ← contentAt second
    let same := ((left.zip right).takeWhile fun pair => pair.1 = pair.2).length
    let line := (left.take same).count 10 + 1
    if left = right then pure 0
    else if given.has 's' then pure 1
    else if given.has 'l' then do
      let width := (toString (min left.length right.length)).length
      putText (differences width 1 left right)
      if left.length ≠ right.length then
        let (shorter, content) := if left.length < right.length then (first, left)
          else (second, right)
        complain ("EOF on " ++ shorter ++ (if content.isEmpty then " which is empty"
          else " after byte " ++ toString content.length))
      pure 1
    else if same < left.length ∧ same < right.length then do
      putText (first ++ " " ++ second ++ " differ: char " ++ toString (same + 1) ++ ", line "
        ++ toString line ++ "\n")
      pure 1
    else do
      let (shorter, content) := if left.length < right.length then (first, left)
        else (second, right)
      let place := if content.isEmpty then " which is empty"
        else " after byte " ++ toString same ++ ", "
          ++ (if content.getLast? = some 10 then "line " ++ toString (line - 1)
            else "in line " ++ toString line)
      complain ("EOF on " ++ shorter ++ place)
      pure 1

end ChartManifests.Program.Utility
