import ChartManifests.Calendar
import ChartManifests.Host.Mode
import ChartManifests.Program.Utility.Basic
/-!
Utilities that change the tree of files: they make and remove directories and files, and change when
files seem to be from and what may be done with them.
-/

namespace ChartManifests.Program.Utility

def baseName (path ending : String) : String :=
  let parts := (Text.splitAt Files.separator path.toList).filter (· ≠ [])
  let name := (parts.getLast?).getD (if path = "" then [] else [Files.separator])
  let stripped := if ending.toList.isSuffixOf name ∧ name ≠ ending.toList then
      name.take (name.length - ending.length)
    else name
  String.ofList stripped

def directoryName (path : String) : String :=
  let trimmed := (path.toList.reverse.dropWhile (· = Files.separator))
  let above := (trimmed.dropWhile (· ≠ Files.separator)).dropWhile (· = Files.separator)
  let isRooted := path.toList.head? = some Files.separator
  if above.isEmpty then (if isRooted then "/" else ".") else String.ofList above.reverse

def joinPath (directory name : String) : String :=
  if directory.toList.getLast? = some Files.separator then directory ++ name
  else directory ++ "/" ++ name

def asksForDirectory (path : String) : Bool := path.toList.getLast? = some Files.separator

def lookUp (path : String) : Run (Except FileFault (Location × Entry)) := do
  let state ← get
  pure (state.files.find state.current path)

def lookUpItself (path : String) : Run (Except FileFault (Location × Entry)) := do
  let state ← get
  pure (state.files.findItself state.current path)

def agrees (question : String) : Run Bool := do
  writeText 2 ((← get).title ++ ": " ++ question)
  match ← takeLine 0 with
  | .ok (line, _) => pure (line.head? = some 121 || line.head? = some 89)
  | .error _ => pure false

def kindName : Entry → String
  | .directory => "directory"
  | .file content => if content.isEmpty then "regular empty file" else "regular file"
  | .utility _ => "regular file"
  | .device _ => "character special file"
  | .link _ => "symbolic link"
  | .queue => "fifo"

def modeChange (text : String) : Run (List Permission.Clause) := do
  match Permission.change? text with
  | some change => pure change
  | none => fail 1 ("invalid mode " ++ Text.quotedWord text)

def makeOptions : Options where
  alone := "pvZ"
  valued := "m"
  long := [("parents", 'p'), ("verbose", 'v'), ("mode", 'm')]
  status := 1
  first := false

def parentMode (state : State) : Nat := state.allowed Permission.ofDirectory ||| 0o300

def mkdir (arguments : List String) : Run Nat := do
  let (given, operands) ← makeOptions.read arguments
  if operands.isEmpty then missing 1
  let mode ← match given.last? 'm' with
    | some text => do
      let change ← modeChange text
      pure (Permission.applied change (← get).mask true Permission.ofDirectory)
    | none => do pure ((← get).allowed Permission.ofDirectory)
  onAll operands fun path => do
    let state ← get
    let paths := if given.has 'p' then Files.ancestry path else [path]
    let made := paths.filter fun path => (state.files.find state.current path).toOption.isNone
    let result :=
      if given.has 'p' then state.files.createEach (parentMode state) mode state.current paths
      else (state.files.createDirectory mode state.current path).mapError fun fault =>
        ⟨fault, path⟩
    match result with
    | .ok files => do
      set { state with files }
      if given.has 'v' then
        for path in made do
          putText (state.title ++ ": created directory " ++ Text.quotedName path ++ "\n")
      pure 0
    | .error refused => do
      let named := if refused.fault = .notDirectory && given.has 'p' then
          Files.parentPath refused.path
        else refused.path
      complain ("cannot create directory " ++ Text.quotedName named ++ ": "
        ++ refused.fault.wording)
      pure 1

def mkfifo (arguments : List String) : Run Nat := do
  let (given, operands) ← { makeOptions with alone := "Z" }.read arguments
  if operands.isEmpty then missing 1
  let mode ← match given.last? 'm' with
    | some text => do
      let change ← modeChange text
      pure (Permission.applied change (← get).mask false Permission.ofFile)
    | none => do pure ((← get).allowed Permission.ofFile)
  onAll operands fun path => do
    let state ← get
    let result : Except FileFault Files := do
      let location ← state.files.locateItself state.current path
      match state.files.standing? location with
      | some _ => .error .occupied
      | none => .ok (state.files.add location .queue mode)
    match result with
    | .ok files => do
      set { state with files }
      pure 0
    | .error fault => do
      complain ("cannot create fifo " ++ Text.quotedName path ++ ": " ++ fault.wording)
      pure 1

def clearOptions : Options where
  alone := "pv!"
  valued := ""
  long := [("parents", 'p'), ("verbose", 'v'), ("ignore-fail-on-non-empty", '!')]
  status := 1
  first := false

inductive Unremovable
  | fault (fault : FileFault)
  | link
  | root
deriving DecidableEq, Repr

def Unremovable.wording : Unremovable → String
  | fault reason => reason.wording
  | link => "Symbolic link not followed"
  | root => "Device or resource busy"

def withoutDirectory (state : State) (path : String) : Except Unremovable Files :=
  let isLink (path : String) : Bool :=
    match state.files.findItself state.current path with
    | .ok (_, .link _) => true
    | _ => false
  if isLink path then .error (.fault .notDirectory)
  else if isLink (Files.withoutEnd path) && state.files.hasDirectory state.current path then
    .error .link
  else
    match state.files.find state.current path with
    | .error fault => .error (.fault fault)
    | .ok (location, .directory) =>
      let last := (Files.steps (Files.withoutEnd path)).getLast?
      if location.isEmpty then .error .root
      else if last = some "." then .error (.fault .improper)
      else if last = some ".." || !(state.files.namesIn location).isEmpty then
        .error (.fault .notEmpty)
      else .ok (state.files.erase location)
    | .ok _ => .error (.fault .notDirectory)

def rmdir (arguments : List String) : Run Nat := do
  let (given, operands) ← clearOptions.read arguments
  if operands.isEmpty then missing 1
  onAll operands fun path => do
    let paths := if given.has 'p' then (Files.ancestry (Files.withoutEnd path)).reverse
      else [path]
    let mut status := 0
    for (path, index) in paths.zipIdx do
      if status = 0 then
        if given.has 'v' then
          putText ((← get).title ++ ": removing directory, " ++ Text.quotedName path ++ "\n")
        match withoutDirectory (← get) path with
        | .ok files => modify fun state => { state with files }
        | .error reason => do
          let isFull : Bool := reason = .fault .notEmpty
          if !(given.has '!' && isFull) then
            complain ("failed to remove " ++ (if index = 0 then "" else "directory ")
              ++ Text.quotedName path ++ ": " ++ reason.wording)
            status := 1
    pure status

def removeOptions : Options where
  alone := "dfirRvI!#"
  valued := "%"
  long := [("dir", 'd'), ("force", 'f'), ("recursive", 'r'), ("verbose", 'v'),
    ("interactive", '%'), ("one-file-system", '!'), ("no-preserve-root", '#'),
    ("preserve-root", '!')]
  status := 1
  first := false

/-- What stands in a place and below it, each with its path; a directory stands in front of what is
in it, or behind it. -/
def treeFrom (files : Files) (outerFirst : Bool) :
    Nat → String → Location → List (String × Location)
  | 0, path, location => [(path, location)]
  | bound + 1, path, location =>
    if files.isDirectory location then
      let inner := (files.namesIn location).flatMap fun name =>
        treeFrom files outerFirst bound (joinPath path name) (location ++ [name])
      if outerFirst then (path, location) :: inner else inner ++ [(path, location)]
    else [(path, location)]

def isWanted (given : Given) (deed kind path : String) : Run Bool := do
  if given.lastOf? ['f', 'i'] = some 'i' then
    agrees (deed ++ " " ++ kind ++ " " ++ Text.quotedName path ++ "? ")
  else pure true

def removeAt (given : Given) : Nat → String → Location → Run Nat
  | 0, _, _ => pure 1
  | bound + 1, path, location => do
    let files := (← get).files
    let kind := ((files.standing? location).map kindName).getD ""
    let names := files.namesIn location
    let isFull := files.isDirectory location && !names.isEmpty
    let enters ← if isFull then isWanted given "descend into" kind path else pure true
    if !enters then pure 0
    else do
      let status ← onAll names fun name =>
        removeAt given bound (joinPath path name) (location ++ [name])
      if !(← isWanted given "remove" kind path) then pure status
      else if !((← get).files.namesIn location).isEmpty then do
        complain ("cannot remove " ++ Text.quotedName path ++ ": " ++ FileFault.wording .notEmpty)
        pure 1
      else do
        modify fun state => { state with files := state.files.erase location }
        if given.has 'v' then
          putText ("removed " ++ (if kind = kindName .directory then kind ++ " " else "")
            ++ Text.quotedName path ++ "\n")
        pure status

def rm (arguments : List String) : Run Nat := do
  let (given, operands) ← removeOptions.read arguments
  let recursive := given.has 'r' || given.has 'R'
  if operands.isEmpty && !given.has 'f' then missing 1
  onAll operands fun path => do
    let refuse (fault : FileFault) : Run Nat := do
      complain ("cannot remove " ++ Text.quotedName path ++ ": " ++ fault.wording)
      pure 1
    let isLink := match ← lookUpItself (Files.withoutEnd path) with
      | .ok (_, .link _) => true
      | _ => false
    match ← lookUpItself path with
    | .ok (location, .directory) =>
      let files := (← get).files
      let name := baseName path ""
      if isLink then refuse .notDirectory
      else if !recursive && !given.has 'd' then refuse .isDirectory
      else if name = "." || name = ".." then do
        complain ("refusing to remove '.' or '..' directory: skipping " ++ Text.quotedName path)
        pure 1
      else if location.isEmpty then do
        complain "it is dangerous to operate recursively on '/'"
        complain "use --no-preserve-root to override this failsafe"
        pure 1
      else if !recursive && !(files.namesIn location).isEmpty then refuse .notEmpty
      else removeAt given (files.places.length + 1) path location
    | .ok (location, _) => removeAt given 1 path location
    | .error fault =>
      if given.has 'f' && (fault = .missing || fault = .notDirectory) then pure 0
      else refuse fault

def unlink (arguments : List String) : Run Nat := do
  match arguments with
  | [] => missing 1
  | _ :: extra :: _ => misuse 1 ("extra operand " ++ Text.quotedName extra)
  | [path] =>
    let refuse (fault : FileFault) : Run Nat :=
      fail 1 ("cannot unlink " ++ Text.quotedName path ++ ": " ++ fault.wording)
    match ← lookUpItself path with
    | .ok (_, .directory) => refuse .isDirectory
    | .ok (location, _) => do
      modify fun state => { state with files := state.files.erase location }
      pure 0
    | .error fault => refuse fault

def touchOptions : Options where
  alone := "acfhm"
  valued := "drt!"
  long := [("no-create", 'c'), ("date", 'd'), ("reference", 'r'), ("no-dereference", 'h'),
    ("time", '!')]
  status := 1
  first := false

def daysBeforeEra : Nat := 719163

def instant? (year month day hour minute second : Nat) : Option Nat :=
  match Moment.make year month day hour minute second 0 none with
  | .ok moment => some ((moment.instant - daysBeforeEra * 86400 * Calendar.second).toNat)
  | .error _ => none

def numbersIn (text : String) : List Nat :=
  let digits := text.toList.map fun character => if character.isDigit then character else ' '
  ((Text.splitAt ' ' digits).filter (· ≠ [])).map fun part => (String.ofList part).toNat?.getD 0

def timeOf? (now : Nat) (text : String) : Option Nat :=
  match text.toList with
  | '@' :: digits => ((String.ofList digits).toNat?).map (· * Calendar.second)
  | _ =>
    if text = "now" then some now
    else
      match numbersIn text with
      | [year, month, day] => instant? year month day 0 0 0
      | [year, month, day, hour, minute] => instant? year month day hour minute 0
      | [year, month, day, hour, minute, second] => instant? year month day hour minute second
      | _ => none

def stampOf? (now : Nat) (text : String) : Option Nat :=
  let digits := text.toList.takeWhile Char.isDigit
  let number (from_ count : Nat) : Nat :=
    (String.ofList ((digits.drop from_).take count)).toNat?.getD 0
  let second? : Option Nat := match text.toList.drop digits.length with
    | [] => some 0
    | ['.', high, low] => (String.ofList [high, low]).toNat?
    | _ => none
  let century (year : Nat) : Nat := if year < 69 then 2000 + year else 1900 + year
  let rest (start year : Nat) (second : Nat) : Option Nat :=
    instant? year (number start 2) (number (start + 2) 2) (number (start + 4) 2)
      (number (start + 6) 2) second
  second?.bind fun second =>
    match digits.length with
    | 8 => rest 0 (1970 + now / Calendar.second / 31556952) second
    | 10 => rest 2 (century (number 0 2)) second
    | 12 => rest 4 (number 0 4) second
    | _ => none

def timeAsked (given : Given) : Run Nat := do
  let state ← get
  match given.last? 'r', given.last? 'd', given.last? 't' with
  | some path, _, _ =>
    match state.files.find state.current path with
    | .ok (location, _) => pure (((state.files.node? location).map Node.changed).getD 0)
    | .error fault =>
      fail 1 ("failed to get attributes of " ++ Text.quotedName path ++ ": " ++ fault.wording)
  | none, some text, _ =>
    match timeOf? state.files.now text with
    | some time => pure time
    | none => fail 1 ("invalid date format " ++ Text.quotedWord text)
  | none, none, some text =>
    match stampOf? state.files.now text with
    | some time => pure time
    | none => fail 1 ("invalid date format " ++ Text.quotedWord text)
  | none, none, none => pure state.files.now

def touch (arguments : List String) : Run Nat := do
  let (given, operands) ← touchOptions.read arguments
  let changed ← timeAsked given
  if operands.isEmpty then misuse 1 "missing file operand"
  let keepsChange := given.has 'a' && !given.has 'm'
  onAll operands fun path => do
    let state ← get
    let stamp (files : Files) (location : Location) : Files :=
      if keepsChange then files
      else files.change location fun node => { node with changed }
    let found := if given.has 'h' then state.files.findItself state.current path
      else state.files.find state.current path
    let result : Except FileFault Files :=
      match found with
      | .ok (location, _) => .ok (stamp state.files location)
      | .error .missing =>
        if given.has 'c' then .ok state.files
        else if asksForDirectory path then .error .missing
        else do
          let location ← state.files.locate state.current path
          let files ← state.files.store location [] (state.allowed Permission.ofFile)
          .ok (stamp files location)
      | .error fault => .error fault
    match result with
    | .ok files => do
      set { state with files }
      pure 0
    | .error fault => do
      let verb := if asksForDirectory path then "setting times of" else "cannot touch"
      complain (verb ++ " " ++ Text.quotedName path ++ ": " ++ fault.wording)
      pure 1

def truncateOptions : Options where
  alone := "co"
  valued := "rs"
  long := [("no-create", 'c'), ("reference", 'r'), ("size", 's')]
  status := 1
  first := false

def lengthAsked? (text : String) : Option (Nat → Nat) :=
  let sized (digits : List Char) (step : Nat → Nat → Nat) : Option (Nat → Nat) :=
    (sized? (String.ofList digits)).map fun size old => step old size
  match text.toList with
  | '+' :: digits => sized digits fun old size => old + size
  | '-' :: digits => sized digits fun old size => old - size
  | '<' :: digits => sized digits min
  | '>' :: digits => sized digits max
  | '/' :: digits => sized digits fun old size => old / max size 1 * size
  | '%' :: digits => sized digits fun old size => (old + size - 1) / max size 1 * size
  | digits => sized digits fun _ size => size

def truncate (arguments : List String) : Run Nat := do
  let (given, operands) ← truncateOptions.read arguments
  let length ← match given.last? 's', given.last? 'r' with
    | some text, _ =>
      match lengthAsked? text with
      | some length => pure length
      | none => fail 1 ("Invalid number: " ++ Text.quotedWord text)
    | none, some path =>
      match ← contentOf path with
      | .ok content => pure fun _ => content.length
      | .error fault =>
        fail 1 ("cannot stat " ++ Text.quotedName path ++ ": " ++ fault.wording)
    | none, none => misuse 1 "you must specify either '--size' or '--reference'"
  if operands.isEmpty then misuse 1 "missing file operand"
  onAll operands fun path => do
    let state ← get
    let old := (state.files.content? state.current path).getD []
    let wanted := length old.length
    let content := old.take wanted ++ List.replicate (wanted - old.length) 0
    let result : Except FileFault Files := do
      let location ← state.files.locate state.current path
      if given.has 'c' && (state.files.standing? location).isNone then .ok state.files
      else state.files.store location content (state.allowed Permission.ofFile)
    match result with
    | .ok files => do
      set { state with files }
      pure 0
    | .error fault => do
      complain ("cannot open " ++ Text.quotedName path ++ " for writing: " ++ fault.wording)
      pure 1

def modeOptions : Options where
  alone := "cfRv"
  valued := "!"
  long := [("recursive", 'R'), ("quiet", 'f'), ("silent", 'f'), ("changes", 'c'),
    ("verbose", 'v'), ("reference", '!')]
  status := 1
  first := false

def isDashedMode (word : String) : Bool :=
  match word.toList with
  | '-' :: letter :: _ => "rwxXstugoa,+=01234567".toList.contains letter
  | _ => false

def shownMode (mode : Nat) : String :=
  Permission.digits 4 mode ++ " (" ++ Permission.letters mode ++ ")"

/-- Changes the permissions of what stands in a place. `surprising` tells that they are not what the
change says by itself. -/
def changeMode (given : Given) (surprising : Bool) (change : List Permission.Clause)
    (path : String) (location : Location) : Run Nat := do
  let state ← get
  let isDirectory := state.files.isDirectory location
  let old := state.files.modeAt location
  let new := Permission.applied change state.mask isDirectory old
  let expected := Permission.applied change 0 isDirectory old
  set { state with files := state.files.change location fun node => { node with mode := new } }
  let name := Text.quotedName path
  if given.has 'v' || (given.has 'c' && new ≠ old) then
    putText ("mode of " ++ name
      ++ (if new = old then " retained as " else " changed from " ++ shownMode old ++ " to ")
      ++ shownMode new ++ "\n")
  if surprising && Permission.without expected new ≠ 0 then do
    complain (Text.shownName path ++ ": new permissions are " ++ Permission.letters new ++ ", not "
      ++ Permission.letters expected)
    pure 1
  else pure 0

def chmod (arguments : List String) : Run Nat := do
  let options := arguments.takeWhile (· ≠ "--")
  let dashed := options.filter isDashedMode
  let (given, words) ← modeOptions.read
    (options.filter (fun word => !isDashedMode word) ++ arguments.drop options.length)
  let operands := if dashed.isEmpty then words else ",".intercalate dashed :: words
  let state ← get
  let (change, paths) ← match given.last? '!', operands with
    | some path, _ =>
      match state.files.find state.current path with
      | .error fault =>
        fail 1 ("failed to get attributes of " ++ Text.quotedName path ++ ": " ++ fault.wording)
      | .ok (location, _) =>
        let mode := Permission.digits 5 (state.files.modeAt location)
        pure ((Permission.change? mode).getD [], operands)
    | none, [] => missing 1
    | none, [mode] =>
      misuse 1 ("missing operand after "
        ++ Text.quotedWord (if dashed.isEmpty then mode else dashed.getLast?.getD ""))
    | none, mode :: paths =>
      match Permission.change? mode with
      | some change => pure (change, paths)
      | none => misuse 1 ("invalid mode: " ++ Text.quotedWord mode)
  if paths.isEmpty then missing 1
  onAll paths fun path => do
    let state ← get
    match state.files.find state.current path with
    | .ok (location, _) => do
      let places := if given.has 'R' then
          (treeFrom state.files true state.files.places.length path location).filter fun entry =>
            !(state.files.standing? entry.2 matches some (.link _))
        else [(path, location)]
      onAll places fun (path, location) =>
        changeMode given (!dashed.isEmpty) change path location
    | .error fault => do
      if !given.has 'f' then
        let isDangling : Bool := match ← lookUpItself path with
          | .ok _ => fault = .missing
          | .error _ => false
        complain (if isDangling then
            "cannot operate on dangling symlink " ++ Text.quotedName path
          else "cannot access " ++ Text.quotedName path ++ ": " ++ fault.wording)
      pure 1

def temporaryOptions : Options where
  alone := "dqtuV"
  valued := "pS"
  long := [("directory", 'd'), ("quiet", 'q'), ("dry-run", 'u'), ("tmpdir", 'p'), ("suffix", 'S')]
  status := 1
  first := false

def mktemp (arguments : List String) : Run Nat := do
  let (given, operands) ← temporaryOptions.read arguments
  let state ← get
  let template := operands.headD "tmp.XXXXXXXXXX"
  let directory := match given.last? 'p' with
    | some directory => some directory
    | none =>
      if operands.isEmpty || given.has 't' then some ((state.value? "TMPDIR").getD "/tmp") else none
  let characters := template.toList
  let body := (characters.reverse.dropWhile (· ≠ 'X')).reverse
  let marks := (body.reverse.takeWhile (· = 'X')).length
  if marks < 3 then fail 1 ("too few X's in template " ++ Text.quotedWord template)
  else
    let digits := Nat.toDigits 10 state.files.nodes.size
    let filled := (List.replicate marks '0' ++ digits).drop digits.length
    let name := String.ofList (body.take (body.length - marks) ++ filled
      ++ characters.drop body.length) ++ (given.last? 'S').getD ""
    let path := (directory.map fun directory => joinPath directory name).getD name
    let result : Except FileFault Files := do
      let location ← state.files.locate state.current path
      if given.has 'u' then .ok state.files
      else if given.has 'd' then state.files.createDirectory 0o700 state.current path
      else state.files.store location [] 0o600
    match result with
    | .ok files => do
      set { state with files }
      putText (path ++ "\n")
      pure 0
    | .error fault => do
      let kind := if given.has 'd' then "directory" else "file"
      let shown := (directory.map fun directory => joinPath directory template).getD template
      if !given.has 'q' then
        complain ("failed to create " ++ kind ++ " via template " ++ Text.quotedWord shown ++ ": "
          ++ fault.wording)
      pure 1

end ChartManifests.Program.Utility
