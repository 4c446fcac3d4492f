import ChartManifests.Program.Condition
import ChartManifests.Program.Utility.Copying
import ChartManifests.Program.Utility.Launch
import ChartManifests.Program.Utility.Listing
import ChartManifests.Shell.Pattern
import ChartManifests.Text.Expression.Reader
/-!
The utility that goes through the tree of files, and does something with every place that a
condition holds of.
-/

namespace ChartManifests.Program.Utility

/-- A place that is visited: its path, what leads there below the path that was given, how deep it
is below that, and what stands there. -/
structure Visit where
  path : String
  start : String
  location : Location
  depth : Nat
  node : Node
deriving DecidableEq, Repr

inductive Comparison
  | more
  | less
  | exactly
deriving DecidableEq, Repr

def Comparison.holds (wanted found : Nat) : Comparison → Bool
  | more => wanted < found
  | less => found < wanted
  | exactly => found = wanted

inductive BitComparison
  | same
  | all
  | any
deriving DecidableEq, Repr

inductive Finding
  | always
  | never
  | name (folds : Bool) (pattern : List Shell.Glyph)
  | path (folds : Bool) (pattern : List Shell.Glyph)
  | kind (letters : List Char)
  | empty
  | executable
  | newer (than : Node)
  | sameAs (number : Nat)
  | size (comparison : Comparison) (count unit : Nat)
  | links (comparison : Comparison) (count : Nat)
  | age (comparison : Comparison) (count unit : Nat)
  | permissions (comparison : BitComparison) (bits : Nat)
  | target (folds : Bool) (pattern : List Shell.Glyph)
  | expression (folds : Bool) (pattern : Text.Expression)
  | print (ending : String)
  | describe (format : List Char)
  | delete
  | prune
  | quit
  | launch (inPlace : Bool) (words : List String)
  | gather (words : List String)
  | not (inner : Finding)
  | both (first second : Finding)
  | either (first second : Finding)
  | sequence (first second : Finding)
deriving Repr

def Finding.acts : Finding → Bool
  | .print _ | .describe _ | .delete | .launch _ _ | .gather _ | .quit => true
  | .not inner => inner.acts
  | .both first second | .either first second | .sequence first second =>
    first.acts || second.acts
  | _ => false

/-- How far a search has come: whether it goes no deeper here, whether it ends, its status, and the
paths that are gathered for programs. -/
structure Progress where
  pruned : Bool
  ended : Bool
  status : Nat
  gathered : List (List String × String)

def Visit.below (visit : Visit) : String :=
  let rest := visit.path.toList.drop visit.start.length
  String.ofList (if rest.head? = some Files.separator then rest.drop 1 else rest)

def visitName (visit : Visit) : List Char := (baseName visit.path "").toList

def letterOf (entry : Entry) : Char :=
  let letter := kindLetter entry
  if letter = '-' then 'f' else letter

def shownVisit (files : Files) (visit : Visit) : List Char → String
  | '%' :: letter :: rest =>
    let told := match letter with
      | 'p' => visit.path
      | 'f' => baseName visit.path ""
      | 'h' => directoryName visit.path
      | 'd' => toString visit.depth
      | 's' => toString (sizeOf visit.node.entry)
      | 'y' => (letterOf visit.node.entry).toString
      | 'm' => Permission.digits 1 visit.node.mode
      | 'M' => modeText visit.node
      | 'n' => toString (linkCount files visit.location)
      | 'u' | 'g' => "root"
      | 'U' | 'G' => "0"
      | 'P' => visit.below
      | 'H' => visit.start
      | 'l' =>
        match visit.node.entry with
        | .link target => target
        | _ => ""
      | '%' => "%"
      | _ => ""
    told ++ shownVisit files visit rest
  | '\\' :: 'n' :: rest => "\n" ++ shownVisit files visit rest
  | '\\' :: 't' :: rest => "\t" ++ shownVisit files visit rest
  | '\\' :: '0' :: rest => "\x00" ++ shownVisit files visit rest
  | '\\' :: '\\' :: rest => "\\" ++ shownVisit files visit rest
  | character :: rest => character.toString ++ shownVisit files visit rest
  | [] => ""

def fitsPattern (folds : Bool) (pattern : List Shell.Glyph) (text : List Char) : Bool :=
  Shell.fits pattern (if folds then text.map Char.toLower else text)

def dayLength : Nat := 86400 * 1000000

def minuteLength : Nat := 60 * 1000000

def Finding.apply (launcher : Launcher) (visit : Visit) :
    Finding → Progress → Run (Bool × Progress)
  | .always, progress => pure (true, progress)
  | .never, progress => pure (false, progress)
  | .name folds pattern, progress => pure (fitsPattern folds pattern (visitName visit), progress)
  | .path folds pattern, progress =>
    pure (fitsPattern folds pattern visit.path.toList, progress)
  | .kind letters, progress =>
    pure (letters.contains (letterOf visit.node.entry), progress)
  | .empty, progress => do
    let files := (← get).files
    let holds := match visit.node.entry with
      | .directory => (files.namesIn visit.location).isEmpty
      | .file content => content.isEmpty
      | _ => false
    pure (holds, progress)
  | .executable, progress => pure (Permission.allowsRunning visit.node.mode, progress)
  | .newer than, progress => pure (visit.node.isNewer than, progress)
  | .sameAs number, progress => do
    pure ((← get).files.number? visit.location = some number, progress)
  | .size comparison count unit, progress =>
    let units := (sizeOf visit.node.entry + unit - 1) / max unit 1
    pure (comparison.holds count units, progress)
  | .links comparison count, progress => do
    pure (comparison.holds count (linkCount (← get).files visit.location), progress)
  | .age comparison count unit, progress => do
    let age := (← get).files.now - visit.node.changed
    let holds : Bool := match comparison with
      | .more => (count + (if unit = dayLength then 1 else 0)) * unit ≤ age
      | .less => age < count * unit
      | .exactly => if unit = dayLength then age / unit = count else age / unit + 1 = count
    pure (holds, progress)
  | .permissions comparison bits, progress =>
    let own := visit.node.mode &&& bits
    let holds : Bool := match comparison with
      | .same => visit.node.mode = bits
      | .all => own = bits
      | .any => bits = 0 || own ≠ 0
    pure (holds, progress)
  | .target folds pattern, progress =>
    let holds : Bool := match visit.node.entry with
      | .link text => fitsPattern folds pattern text.toList
      | _ => false
    pure (holds, progress)
  | .expression folds pattern, progress =>
    pure ((Text.Expression.find folds pattern [] visit.path.toList).any fun found =>
      found.before.isEmpty && found.after.isEmpty, progress)
  | .print ending, progress => do
    putText (visit.path ++ ending)
    pure (true, progress)
  | .describe format, progress => do
    putText (shownVisit (← get).files visit format)
    pure (true, progress)
  | .delete, progress => do
    let state ← get
    if visit.node.entry = .directory && !(state.files.namesIn visit.location).isEmpty then do
      complain ("cannot delete " ++ Text.quotedWord visit.path ++ ": Directory not empty")
      pure (false, { progress with status := 1 })
    else do
      set { state with files := state.files.erase visit.location }
      pure (true, progress)
  | .prune, progress => pure (true, { progress with pruned := true })
  | .quit, progress => pure (true, { progress with ended := true })
  | .launch inPlace words, progress => do
    let outer := (← get).current
    let path := if inPlace then "./" ++ baseName visit.path "" else visit.path
    let command := words.map fun word => String.ofList
      (replaced ['\x7b', '\x7d'] path.toList (word.length + 1) word.toList)
    if inPlace then modify fun state => { state with current := visit.location.dropLast }
    let result ← launcher.finish command
    modify fun state => { state with current := outer }
    match result with
    | .ok finish => pure (finish = .status 0, progress)
    | .error fault => do
      complain (Text.quotedWord (command.headD "") ++ ": " ++ fault.wording)
      pure (false, progress)
  | .gather words, progress =>
    pure (true, { progress with gathered := progress.gathered ++ [(words, visit.path)] })
  | .not inner, progress => do
    let (holds, next) ← inner.apply launcher visit progress
    pure (!holds, next)
  | .both first second, progress => do
    let (holds, next) ← first.apply launcher visit progress
    if holds && !next.ended then second.apply launcher visit next else pure (false, next)
  | .either first second, progress => do
    let (holds, next) ← first.apply launcher visit progress
    if holds || next.ended then pure (true, next) else second.apply launcher visit next
  | .sequence first second, progress => do
    let (holds, next) ← first.apply launcher visit progress
    if next.ended then pure (holds, next) else second.apply launcher visit next

inductive Following
  | none
  | operands
  | all
deriving DecidableEq, Repr

structure SearchDepth where
  least : Nat
  most : Option Nat
  innerFirst : Bool
  following : Following

def visitAt (files : Files) (follows : Bool) (path start : String) (location : Location)
    (depth : Nat) : Option Visit :=
  (files.node? location).map fun node =>
    match node.entry, follows with
    | .link _, true =>
      match files.find [] (Files.pathTo location) with
      | .ok (target, _) => ⟨path, start, target, depth, nodeAt files target⟩
      | .error _ => ⟨path, start, location, depth, node⟩
    | _, _ => ⟨path, start, location, depth, node⟩

def outerPath : Nat → String → String
  | 0, path => path
  | count + 1, path => outerPath count (directoryName path)

def Finding.walk (launcher : Launcher) (finding : Finding) (depths : SearchDepth) :
    Nat → Visit → Progress → Run Progress
  | 0, _, progress => pure progress
  | bound + 1, visit, progress => do
    let visitHere (progress : Progress) : Run Progress := do
      if visit.depth < depths.least || progress.ended then pure progress
      else do
        let (_, next) ← finding.apply launcher visit progress
        pure next
    let visitInner (progress : Progress) : Run Progress := do
      let goesOn := visit.node.entry = .directory && depths.most.all (visit.depth < ·)
        && !progress.ended && (depths.innerFirst || !progress.pruned)
      let mut current := { progress with pruned := false }
      if goesOn then
        for name in (← get).files.namesIn visit.location do
          let location := visit.location ++ [name]
          match visitAt (← get).files (depths.following = .all) (joinPath visit.path name)
              visit.start location (visit.depth + 1) with
          | some inner =>
            let isLoop := inner.location ≠ location && inner.location.isPrefixOf visit.location
              && inner.node.entry = .directory
            if current.ended then pure ()
            else if isLoop then do
              let levels := visit.location.length - inner.location.length
              complain ("File system loop detected; " ++ Text.quotedWord inner.path
                ++ " is part of the same file system loop as "
                ++ Text.quotedWord (outerPath levels visit.path) ++ ".")
              current := { current with status := 1 }
            else current ← finding.walk launcher depths bound inner current
          | none => pure ()
      pure current
    let begun := { progress with pruned := false }
    if depths.innerFirst then visitHere (← visitInner begun) else visitInner (← visitHere begun)

def shellPattern (folds : Bool) (text : String) : List Shell.Glyph :=
  let characters := if folds then text.toList.map Char.toLower else text.toList
  Shell.patternOf (characters.map fun character => (character, false))

def comparisonOf (characters : List Char) : Comparison × List Char :=
  match characters with
  | '+' :: rest => (.more, rest)
  | '-' :: rest => (.less, rest)
  | others => (.exactly, others)

def sizeFinding? (text : String) : Option Finding :=
  let (comparison, body) := comparisonOf text.toList
  let digits := body.takeWhile Char.isDigit
  let unit? := match body.drop digits.length with
    | [] | ['b'] => some 512
    | ['c'] => some 1
    | ['w'] => some 2
    | ['k'] => some 1024
    | ['M'] => some (1024 ^ 2)
    | ['G'] => some (1024 ^ 3)
    | _ => none
  if digits.isEmpty then none
  else unit?.map fun unit => .size comparison ((String.ofList digits).toNat?.getD 0) unit

def countFinding? (make : Comparison → Nat → Finding) (text : String) : Option Finding :=
  let (comparison, body) := comparisonOf text.toList
  if body.isEmpty then none
  else ((String.ofList body).toNat?).map (make comparison)

def permissionFinding? (text : String) : Option Finding :=
  let (comparison, body) := match text.toList with
    | '-' :: rest => (BitComparison.all, rest)
    | '/' :: rest => (.any, rest)
    | others => (.same, others)
  (Permission.change? (String.ofList body)).map fun change =>
    .permissions comparison (Permission.applied change 0 false 0)

def valueOf (name : String) : List String → Run (String × List String)
  | value :: rest => pure (value, rest)
  | [] => fail 1 ("missing argument to `" ++ name ++ "'")

def readFinding (name : String) (words : List String) : Run (Finding × List String) := do
  let withValue (make : String → Run Finding) : Run (Finding × List String) := do
    let (value, rest) ← valueOf name words
    pure (← make value, rest)
  let numeric (make : String → Option Finding) (text : String) : Run Finding :=
    match make text with
    | some finding => pure finding
    | none => fail 1 ("Invalid argument `" ++ text ++ "' to " ++ name)
  match name with
  | "-true" => pure (.always, words)
  | "-false" => pure (.never, words)
  | "-name" => withValue fun text => pure (.name false (shellPattern false text))
  | "-iname" => withValue fun text => pure (.name true (shellPattern true text))
  | "-path" | "-wholename" => withValue fun text => pure (.path false (shellPattern false text))
  | "-ipath" => withValue fun text => pure (.path true (shellPattern true text))
  | "-type" => withValue fun text => do
    let letters := text.toList.filter (· ≠ ',')
    match letters.find? fun letter => !"bcdflps".toList.contains letter with
    | some letter => fail 1 ("Unknown argument to -type: " ++ letter.toString)
    | none => pure (.kind letters)
  | "-empty" => pure (.empty, words)
  | "-executable" => pure (.executable, words)
  | "-readable" | "-writable" => pure (.always, words)
  | "-nouser" | "-nogroup" => pure (.never, words)
  | "-newer" => withValue fun text => do
    match ← lookUp text with
    | .ok (location, _) => do pure (.newer (nodeAt (← get).files location))
    | .error fault => fail 1 (Text.quotedWord text ++ ": " ++ fault.wording)
  | "-samefile" => withValue fun text => do
    match ← lookUp text with
    | .ok (location, _) => do pure (.sameAs (((← get).files.number? location).getD 0))
    | .error fault => fail 1 (Text.quotedWord text ++ ": " ++ fault.wording)
  | "-size" => withValue (numeric sizeFinding?)
  | "-links" => withValue (numeric (countFinding? .links))
  | "-mtime" | "-atime" | "-ctime" =>
    withValue (numeric (countFinding? fun comparison count => .age comparison count dayLength))
  | "-mmin" | "-amin" | "-cmin" =>
    withValue (numeric (countFinding? fun comparison count => .age comparison count minuteLength))
  | "-perm" => withValue fun text => do
    match permissionFinding? text with
    | some finding => pure finding
    | none => fail 1 ("invalid mode " ++ Text.quotedWord text)
  | "-lname" => withValue fun text => pure (.target false (shellPattern false text))
  | "-ilname" => withValue fun text => pure (.target true (shellPattern true text))
  | "-regex" | "-iregex" => withValue fun text => do
    match Text.Expression.read .basic text.toList with
    | .ok (expression, _) => pure (.expression (name = "-iregex") expression)
    | .error fault => fail 1 ("failed to compile regular expression '" ++ text ++ "': "
        ++ fault.message)
  | "-user" | "-group" | "-uid" | "-gid" => withValue fun text => do
    pure (if text = "root" || text = "0" then Finding.always else .never)
  | "-print" => pure (.print "\n", words)
  | "-print0" => pure (.print "\x00", words)
  | "-printf" => withValue fun text => pure (.describe text.toList)
  | "-delete" => pure (.delete, words)
  | "-prune" => pure (.prune, words)
  | "-quit" => pure (.quit, words)
  | "-exec" | "-execdir" => do
    let command := words.takeWhile fun word => word ≠ ";" && word ≠ "+"
    match words.drop command.length with
    | ";" :: rest =>
      if command.isEmpty then fail 1 ("missing argument to `" ++ name ++ "'")
      else pure (.launch (name = "-execdir") command, rest)
    | "+" :: rest =>
      pure (if name = "-execdir" then .launch true command else .gather command, rest)
    | _ => fail 1 ("missing argument to `" ++ name ++ "'")
  | _ =>
    if name.toList.head? = some '-' then fail 1 ("unknown predicate `" ++ name ++ "'")
    else fail 1 ("paths must precede expression: `" ++ name ++ "'")

mutual

def readSequence : Nat → List String → Run (Finding × List String)
  | 0, words => pure (.always, words)
  | bound + 1, words => do
    let (first, rest) ← readEither bound words
    match rest with
    | "," :: others => do
      let (second, last) ← readSequence bound others
      pure (.sequence first second, last)
    | _ => pure (first, rest)

def readEither : Nat → List String → Run (Finding × List String)
  | 0, words => pure (.always, words)
  | bound + 1, words => do
    let (first, rest) ← readBoth bound words
    match rest with
    | "-o" :: others | "-or" :: others => do
      let (second, last) ← readEither bound others
      pure (.either first second, last)
    | _ => pure (first, rest)

def readBoth : Nat → List String → Run (Finding × List String)
  | 0, words => pure (.always, words)
  | bound + 1, words => do
    let (first, rest) ← readOne bound words
    let others := match rest with
      | "-a" :: others | "-and" :: others => others
      | _ => rest
    match others with
    | [] | ")" :: _ | "-o" :: _ | "-or" :: _ | "," :: _ => pure (first, others)
    | _ => do
      let (second, last) ← readBoth bound others
      pure (.both first second, last)

def readOne : Nat → List String → Run (Finding × List String)
  | 0, words => pure (.always, words)
  | bound + 1, words => do
    match words with
    | [] => pure (.always, [])
    | "!" :: rest | "-not" :: rest => do
      let (inner, last) ← readOne bound rest
      pure (.not inner, last)
    | "(" :: rest => do
      let (inner, behind) ← readSequence bound rest
      match behind with
      | ")" :: last => pure (inner, last)
      | _ =>
        let awaited := "I was expecting to find a ')' somewhere but did not see one."
        fail 1 ("invalid expression; " ++ awaited)
    | name :: rest => readFinding name rest

end

def searchDepths : SearchDepth → List String → Run (SearchDepth × List String)
  | depths, [] => pure (depths, [])
  | depths, word :: rest => do
    if word = "-maxdepth" || word = "-mindepth" then
      match rest with
      | [] => fail 1 ("missing argument to `" ++ word ++ "'")
      | value :: others =>
        match value.toNat? with
        | none => fail 1 ("Expected a positive decimal integer argument to " ++ word
            ++ ", but got '" ++ value ++ "'")
        | some number => do
          let next := if word = "-maxdepth" then { depths with most := some number }
            else { depths with least := number }
          searchDepths next others
    else if word = "-depth" then searchDepths { depths with innerFirst := true } rest
    else if ["-mount", "-xdev", "-noleaf", "-daystart"].contains word then
      searchDepths depths rest
    else if word = "-follow" then searchDepths { depths with following := .all } rest
    else do
      let inner := if word = "-delete" then { depths with innerFirst := true } else depths
      let (found, others) ← searchDepths inner rest
      pure (found, word :: others)

def find (launcher : Launcher) (arguments : List String) : Run Nat := do
  let isExpression (word : String) : Bool :=
    (word.toList.head? = some '-' && word ≠ "-") || word = "(" || word = ")" || word = "!"
  let modes := arguments.takeWhile fun word => ["-H", "-L", "-P"].contains word
  let following : Following := match modes.getLast? with
    | some "-L" => .all
    | some "-H" => .operands
    | _ => Following.none
  let words := arguments.drop modes.length
  let starts := words.takeWhile fun word => !isExpression word
  let (depths, tests) ← searchDepths ⟨0, none, false, following⟩ (words.drop starts.length)
  let (asked, rest) ← if tests.isEmpty then pure (.always, [])
    else readSequence (8 * tests.length + 8) tests
  match rest with
  | [] => pure ()
  | _ => fail 1 "invalid expression; you have too many ')'"
  let finding := if asked.acts then asked else .both asked (.print "\n")
  let mut progress : Progress := ⟨false, false, 0, []⟩
  for path in if starts.isEmpty then ["."] else starts do
    let files := (← get).files
    let visit? := match ← lookUpItself path with
      | .ok (location, _) =>
        Except.ok (visitAt files (depths.following ≠ Following.none) path path location 0)
      | .error fault => .error fault
    match visit? with
    | .ok (some visit) =>
      if !progress.ended then
        progress ← finding.walk launcher depths (files.places.length + 1) visit progress
    | .ok none => pure ()
    | .error fault => do
      complain (Text.quotedWord path ++ ": " ++ fault.wording)
      progress := { progress with status := 1 }
  let commands := (progress.gathered.map Prod.fst).eraseDups
  let mut status := progress.status
  for command in commands do
    let paths := (progress.gathered.filter fun entry => entry.1 = command).map Prod.snd
    let words := command.flatMap fun word =>
      if word = String.ofList ['\x7b', '\x7d'] then paths else [word]
    match ← launcher.finish words with
    | .ok (.status 0) => pure ()
    | .ok _ => status := 1
    | .error fault => do
      complain (Text.quotedWord (words.headD "") ++ ": " ++ fault.wording)
      status := 1
  pure status

end ChartManifests.Program.Utility
