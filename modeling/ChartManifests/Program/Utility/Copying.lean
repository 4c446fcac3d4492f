import ChartManifests.Program.Utility.Tree
/-!
Utilities that give a file another place: as a copy, by moving it, or by a link. A copy of a
directory has copies of what is in it; a link is copied as a link where directories are copied.
-/

namespace ChartManifests.Program.Utility

open Text (Bytes)

inductive Target
  | inside (directory : String)
  | exactly (path : String)

def Target.path (source : String) : Target → String
  | inside directory => joinPath directory (baseName source "")
  | exactly path => path

def isTarget (itself : Bool) (path : String) : Run (Except FileFault Bool) := do
  match ← if itself then lookUpItself path else lookUp path with
  | .ok (_, entry) => pure (.ok (entry = .directory))
  | .error fault => pure (.error fault)

/-- The sources and the target among the operands of a utility that copies, moves or links. Where
`itself` is set, a link to a directory is no target directory. -/
def sourcesOf (itself : Bool) (given : Given) (operands : List String) :
    Run (List String × Target) := do
  match given.last? 't', operands.reverse with
  | _, [] => misuse 1 "missing file operand"
  | some directory, _ =>
    match ← isTarget false directory with
    | .ok true => pure (operands, .inside directory)
    | .ok false =>
      fail 1 ("target directory " ++ Text.quotedName directory ++ ": Not a directory")
    | .error fault =>
      fail 1 ("target directory " ++ Text.quotedName directory ++ ": " ++ fault.wording)
  | none, [only] => misuse 1 ("missing destination file operand after " ++ Text.quotedName only)
  | none, last :: sources =>
    if given.has 'T' then
      match sources.reverse with
      | [source] => pure ([source], .exactly last)
      | _ => misuse 1 ("extra operand " ++ Text.quotedName ((operands[2]?).getD last))
    else
      match ← isTarget itself last with
      | .ok true => pure (sources.reverse, .inside last)
      | found =>
        match sources, found with
        | [source], .error fault =>
          if fault = .missing then pure ([source], .exactly last)
          else fail 1 ("failed to access " ++ Text.quotedName last ++ ": " ++ fault.wording)
        | [source], .ok _ => pure ([source], .exactly last)
        | _, .ok _ => fail 1 ("target " ++ Text.quotedName last ++ ": Not a directory")
        | _, .error fault => fail 1 ("target " ++ Text.quotedName last ++ ": " ++ fault.wording)

def report (given : Given) (text : String) : Run Unit :=
  if given.has 'v' then putText (text ++ "\n") else pure ()

def named (first between second : String) : String :=
  Text.quotedName first ++ between ++ Text.quotedName second

def decline (text : String) : Run Nat := do
  complain text
  pure 1

def copyOptions : Options where
  alone := "abdfHilLnpPrRsTuvxZ!"
  valued := "St#"
  long := [("archive", 'a'), ("force", 'f'), ("no-clobber", 'n'), ("recursive", 'r'),
    ("no-target-directory", 'T'), ("target-directory", 't'), ("update", 'u'), ("verbose", 'v'),
    ("preserve", 'p'), ("interactive", 'i'), ("dereference", 'L'), ("no-dereference", 'P'),
    ("link", 'l'), ("symbolic-link", 's'), ("remove-destination", '!'), ("no-preserve", '#'),
    ("one-file-system", 'x')]
  status := 1
  first := false

def copiesLinks (given : Given) (top : Bool) : Bool :=
  match given.lastOf? ['P', 'L', 'H', 'd', 'a'] with
  | some 'L' => false
  | some 'H' => !top
  | some _ => true
  | none => (given.has 'r' || given.has 'R') && !given.has 'l'

/-- What is copied: its path, its place and its node, where the copy of the operand begins, and the
operand with the target that it is copied to. -/
structure Copied where
  path : String
  location : Location
  node : Node
  outermost : Location
  operand : String × String

def nodeAt (files : Files) (location : Location) : Node :=
  (files.node? location).getD ⟨.file [], 0, 0⟩

def preserve (given : Given) (node : Node) (location : Location) : Run Unit :=
  if given.has 'p' || given.has 'a' then
    modify fun state => { state with
      files := state.files.change location fun copy =>
        { copy with mode := node.mode, changed := node.changed } }
  else pure ()

def copyBytes (given : Given) (copied : Copied) (target : String) : Run Nat := do
  let creating (fault : FileFault) : Run Nat :=
    let reason := if fault = .isDirectory && asksForDirectory target then .notDirectory else fault
    decline ("cannot create regular file " ++ Text.quotedName target ++ ": " ++ reason.wording)
  match ← contentOf copied.path with
  | .error fault =>
    decline ("cannot open " ++ Text.quotedName copied.path ++ " for reading: " ++ fault.wording)
  | .ok content => do
    let state ← get
    match state.files.find state.current target with
    | .error .missing => do
      let isThere := (state.files.findItself state.current target).toOption.isSome
      if isThere then decline ("not writing through dangling symlink " ++ Text.quotedName target)
      else if asksForDirectory target then creating .notDirectory
      else
        match state.files.locate state.current target with
        | .error fault => creating fault
        | .ok location =>
          let mode := state.allowed (Permission.without 0o7000 copied.node.mode)
          match state.files.store location content mode with
          | .error fault => creating fault
          | .ok files => do
            set { state with files }
            preserve given copied.node location
            pure 0
    | .error fault => creating fault
    | .ok (location, _) =>
      match ← openPath .writing target with
      | .error fault => creating fault
      | .ok number => do
        modify fun state => state.connect spareDescriptor number
        let written ← write spareDescriptor content
        modify fun state => state.disconnect spareDescriptor
        match written with
        | .ok () => do
          preserve given copied.node location
          pure 0
        | .error fault =>
          decline ("error writing " ++ Text.quotedName target ++ ": " ++ fault.wording)

def copyLeaf (given : Given) (copied : Copied) (target : String) : Run Nat := do
  let state ← get
  let isLink := match copied.node.entry with
    | .link _ => true
    | _ => false
  let unlinks := isLink || given.has 'l' || given.has 's' || given.has '!'
  match state.files.findItself state.current target with
  | .ok (location, entry) =>
    if unlinks && entry ≠ .directory then
      set { state with files := state.files.erase location }
  | .error _ => pure ()
  report given (named copied.path " -> " target)
  let place (kind : String) (add : Files → Location → Files) : Run Nat := do
    let state ← get
    match state.files.locateItself state.current target with
    | .error fault =>
      decline ("cannot create " ++ kind ++ " " ++ Text.quotedName target ++ ": " ++ fault.wording)
    | .ok location => do
      set { state with files := add state.files location }
      pure 0
  match copied.node.entry with
  | .link path =>
    if given.has 'l' then
      place "hard link" fun files => files.share copied.location
    else
      place "symbolic link" fun files location =>
        files.add location (.link path) Permission.ofDirectory
  | _ =>
    if given.has 'l' then
      place "hard link" fun files => files.share copied.location
    else if given.has 's' then
      place "symbolic link" fun files location =>
        files.add location (.link copied.path) Permission.ofDirectory
    else copyBytes given copied target

def isKept (given : Given) (node old : Node) (target : String) : Run Bool := do
  if node.entry = .directory then pure false
  else if given.has 'u' && !node.isNewer old then pure true
  else
    match given.lastOf? ['n', 'i', 'f'] with
    | some 'n' => pure true
    | some 'i' => do pure (!(← agrees ("overwrite " ++ Text.quotedName target ++ "? ")))
    | _ => pure false

def copyEntry (given : Given) : Nat → Bool → Copied → String → Run Nat
  | 0, _, _, _ => pure 1
  | bound + 1, top, copied, target => do
    let state ← get
    let isTree : Bool := copied.node.entry = .directory
    let recursive := given.has 'r' || given.has 'R' || given.has 'a'
    if isTree && !recursive then
      decline ("-r not specified; omitting directory " ++ Text.quotedName copied.path)
    else
      let isFile := match copied.node.entry with
        | .file _ | .utility _ | .device _ => !given.has 'l' && !given.has 's' && !given.has '!'
        | _ => false
      let standing := if isFile then state.files.find state.current target
        else state.files.findItself state.current (Files.withoutEnd target)
      let copyTree (exists_ : Bool) : Run Nat := do
        let made ← if exists_ then pure (.ok state.files)
          else
            let mode := state.allowed (Permission.without 0o7000 copied.node.mode)
            pure (state.files.createDirectory (mode ||| 0o700) state.current target)
        match made with
        | .error fault =>
          decline ("cannot create directory " ++ Text.quotedName target ++ ": " ++ fault.wording)
        | .ok files => do
          set { state with files }
          if !exists_ then report given (named copied.path " -> " target)
          let location := match files.find state.current target with
            | .ok (location, _) => location
            | .error _ => []
          let outermost := if top then location else copied.outermost
          let status ← onAll ((← get).files.namesIn copied.location) fun name => do
            let files := (← get).files
            let inner := copied.location ++ [name]
            let path := joinPath copied.path name
            let inTarget := joinPath target name
            if inner = outermost then
              decline ("cannot copy a directory, " ++
                named copied.operand.1 ", into itself, " copied.operand.2)
            else
              let followed := if copiesLinks given false then inner
                else match files.find state.current path with
                  | .ok (location, _) => location
                  | .error _ => inner
              copyEntry given bound false { copied with
                path, location := followed, node := nodeAt files followed, outermost } inTarget
          preserve given copied.node location
          pure status
      match standing with
      | .error .missing => if isTree then copyTree false else copyLeaf given copied target
      | .error fault => decline ("cannot stat " ++ Text.quotedName target ++ ": " ++ fault.wording)
      | .ok (location, entry) =>
        let isSame := state.files.number? location = state.files.number? copied.location
          || (state.files.find state.current target).toOption.any fun found =>
            state.files.number? found.1 = state.files.number? copied.location
        if isSame && given.has 'l' then pure 0
        else if isSame && !isTree then
          decline (named copied.path " and " target ++ " are the same file")
        else if ← isKept given copied.node (nodeAt state.files location) target then pure 0
        else if !isTree && entry = .directory then
          decline ("cannot overwrite directory " ++ Text.quotedName target
            ++ " with non-directory")
        else if isTree && entry ≠ .directory then
          decline ("cannot overwrite non-directory " ++ named target " with directory " copied.path)
        else if isTree then
          if isSame then
            decline ("cannot copy a directory, " ++ named copied.path ", into itself, " target)
          else copyTree true
        else copyLeaf given copied target

def cp (arguments : List String) : Run Nat := do
  let (given, operands) ← copyOptions.read arguments
  let (sources, target) ← sourcesOf false given operands
  onAll sources fun source => do
    let state ← get
    let found := if copiesLinks given true then state.files.findItself state.current source
      else state.files.find state.current source
    match found with
    | .error fault =>
      decline ("cannot stat " ++ Text.quotedName source ++ ": " ++ fault.wording)
    | .ok (location, _) =>
      let reached := target.path source
      copyEntry given (state.files.places.length + 2) true
        ⟨source, location, nodeAt state.files location, [], source, reached⟩ reached

def moveOptions : Options where
  alone := "bfinTuvZ"
  valued := "St"
  long := [("force", 'f'), ("no-clobber", 'n'), ("no-target-directory", 'T'),
    ("target-directory", 't'), ("update", 'u'), ("verbose", 'v'), ("interactive", 'i')]
  status := 1
  first := false

def moveTo (given : Given) (source target : String) : Run Nat := do
  let state ← get
  let moving (fault : FileFault) : Run Nat :=
    decline ("cannot move " ++ named source " to " target ++ ": " ++ fault.wording)
  match state.files.findItself state.current source with
  | .error fault => decline ("cannot stat " ++ Text.quotedName source ++ ": " ++ fault.wording)
  | .ok (origin, entry) =>
    let isTree : Bool := entry = .directory
    let isLink := match state.files.findItself state.current (Files.withoutEnd source) with
      | .ok (_, .link _) => asksForDirectory source
      | _ => false
    match state.files.locateItself state.current (if isTree then Files.withoutEnd target
      else target) with
    | .error .missing =>
      moving (if asksForDirectory target && !isTree then .notDirectory else .missing)
    | .error fault => moving fault
    | .ok place =>
      let move : Run Nat := do
        modify fun state => { state with files := state.files.move origin place }
        report given ("renamed " ++ named source " -> " target)
        pure 0
      if isLink then moving .notDirectory
      else
        match state.files.standing? place with
        | none =>
          if isTree && origin.isPrefixOf place then
            decline ("cannot move " ++ named source " to a subdirectory of itself, " target)
          else move
        | some standing =>
          if place = origin then
            decline (named source " and " target ++ " are the same file")
          else if ← isKept given (nodeAt state.files origin) (nodeAt state.files place) target then
            pure 0
          else if !isTree && standing = .directory then
            decline ("cannot overwrite directory " ++ Text.quotedName target
              ++ " with non-directory")
          else if isTree && standing ≠ .directory then
            decline ("cannot overwrite non-directory " ++ named target " with directory " source)
          else if given.has 'n' then pure 0
          else if isTree && origin.isPrefixOf place then
            decline ("cannot move " ++ named source " to a subdirectory of itself, " target)
          else if standing = .directory && !(state.files.namesIn place).isEmpty then
            decline ("cannot overwrite " ++ Text.quotedName target ++ ": Directory not empty")
          else move

def mv (arguments : List String) : Run Nat := do
  let (given, operands) ← moveOptions.read arguments
  let (sources, target) ← sourcesOf false given operands
  onAll sources fun source => moveTo given source (target.path source)

def linkOptions : Options where
  alone := "bdfFiLnPrsTv"
  valued := "St"
  long := [("symbolic", 's'), ("force", 'f'), ("no-dereference", 'n'), ("relative", 'r'),
    ("no-target-directory", 'T'), ("target-directory", 't'), ("verbose", 'v'),
    ("logical", 'L'), ("physical", 'P'), ("interactive", 'i')]
  status := 1
  first := false

def relativeTarget (state : State) (source path : String) : String :=
  let directory := (state.files.locate state.current (directoryName path)).toOption.getD []
  match state.files.locate state.current source with
  | .ok location => Files.pathFrom directory location
  | .error _ => source

def makeRoom (given : Given) (path : String) : Run Bool := do
  let remove (location : Location) : Run Bool := do
    modify fun state => { state with files := state.files.erase location }
    pure true
  match ← lookUpItself path with
  | .error _ => pure true
  | .ok (location, _) =>
    match given.lastOf? ['f', 'i'] with
    | some 'f' => remove location
    | some _ =>
      if ← agrees ("replace " ++ Text.quotedName path ++ "? ") then remove location
      else pure false
    | none => pure true

def linkTo (given : Given) (source path : String) : Run Nat := do
  let symbolic := given.has 's'
  let kind := if symbolic then "symbolic link" else "hard link"
  let state ← get
  let origin? := if given.has 'L' then state.files.find state.current source
    else state.files.findItself state.current source
  let failed (fault : FileFault) : Run Nat :=
    decline ("failed to create " ++ kind ++ " " ++ Text.quotedName path
      ++ (if symbolic || fault = .occupied then "" else " => " ++ Text.quotedName source)
      ++ ": " ++ fault.wording)
  match symbolic, origin? with
  | false, .error fault =>
    decline ("failed to access " ++ Text.quotedName source ++ ": " ++ fault.wording)
  | false, .ok (_, .directory) =>
    decline (Text.shownName source ++ ": hard link not allowed for directory")
  | _, _ => do
    let origin := (origin?.toOption.map Prod.fst).getD []
    match state.files.findItself state.current path with
    | .ok (_, .directory) =>
      if given.has 'f' then decline (Text.shownName path ++ ": cannot overwrite directory")
      else failed .occupied
    | found => do
      let standing := (found.toOption.map Prod.fst).bind state.files.number?
      let isSame := !symbolic && standing.isSome && standing = state.files.number? origin
      if isSame && given.has 'f' then
        if (found.toOption.map Prod.fst) = some origin then
          decline (named source " and " path ++ " are the same file")
        else pure 0
      else if !(← makeRoom given path) then pure 1
      else
        let state ← get
        match state.files.locateItself state.current path with
        | .error fault => failed fault
        | .ok location =>
          if (state.files.standing? location).isSome then failed .occupied
          else do
            let text := if given.has 'r' then relativeTarget state source path else source
            let files := if symbolic then
                state.files.add location (.link text) Permission.ofDirectory
              else state.files.share origin location
            if symbolic && text = "" then
              decline ("failed to create symbolic link " ++ named path " -> " text
                ++ ": No such file or directory")
            else do
              set { state with files }
              report given (named path (if symbolic then " -> " else " => ") source)
              pure 0

def ln (arguments : List String) : Run Nat := do
  let (given, operands) ← linkOptions.read arguments
  let (sources, target) ← match operands, given.has 't' || given.has 'T' with
    | [only], false => pure ([only], Target.inside ".")
    | _, _ => sourcesOf (given.has 'n') given operands
  onAll sources fun source =>
    let path := match target with
      | .inside "." =>
        if operands.length = 1 then "./" ++ baseName source "" else target.path source
      | _ => target.path source
    linkTo given source path

end ChartManifests.Program.Utility
