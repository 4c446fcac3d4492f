import ChartManifests.Program.Rich.Directories
import ChartManifests.Program.Rich.Meaning
import ChartManifests.Program.Rich.Options
import ChartManifests.Program.Rich.Reading
import ChartManifests.Program.Rich.Signals
/-!
The utilities of the rich shell that run nothing else.
-/

namespace ChartManifests.Program.Rich

def printf (arguments : List String) : Deed Nat := do
  let (given, words) ← options "printf" [] ['v'] arguments
  match words with
  | [] => misused "printf"
  | format :: rest => do
    let target? := (given.getLast?).map Prod.snd
    match target? with
    | some name =>
      if !isParameterName (Calculation.placeOf name none).name then
        quit "printf" ("`" ++ name ++ "': not a valid identifier") 2
    | none => pure ()
    let state ← get
    let (content, complaints) := printed .rich (state.files.now / 1000000) format rest
    for complaint in complaints do
      blame "printf" (complaint.message .rich)
    match target? with
    | some name => assign "printf" name (Text.ofOctets (content.takeWhile (· ≠ 0)))
    | none => put content
    pure ((complaints.map (Complaint.status .rich)).foldl max 0)

def optionComplaint? : OptionFound → Option String
  | .unknown name => some ("illegal option -- " ++ String.singleton name)
  | .lacking name => some ("option requires an argument -- " ++ String.singleton name)
  | _ => none

def findOption (arguments : List String) : Deed Nat := do
  let (_, operands) ← letters "getopts" [] arguments
  match operands with
  | spelled :: name :: given => do
    let state ← get
    let words := if given.isEmpty then state.arguments else given
    let place := if words.length + 1 < state.place.next then .first else state.place
    let (found, next) := nextOption spelled.toList words place
    let silent := spelled.toList.head? = some ':'
    match optionComplaint? found with
    | some text =>
      if !silent && state.value? "OPTERR" ≠ some "0" then
        writeText 2 (state.title ++ ": " ++ text ++ "\n")
    | none => pure ()
    match found.value? silent, found with
    | some (some value), .valued _ _ | some (some value), .unknown _
    | some (some value), .lacking _ => modify fun state => state.assign "OPTARG" value
    | _, _ => modify fun state => state.unset "OPTARG"
    let shown := if (lettersLeft words next).isEmpty then next.next else next.next - 1
    modify fun state => { state.store placeName (toString shown) with place := next }
    assign "getopts" name (found.shown silent)
    pure (if found = .none then 1 else 0)
  | _ => misused "getopts"

def limits (arguments : List String) : Deed Nat := do
  let (given, operands) ← letters "ulimit" "SHabcdefiklmnpqrstuvxPRT".toList arguments
  if operands.isEmpty then
    writeText 1 (if given.contains 'n' then "1048576\n" else if given.contains 'c' then "0\n"
      else "unlimited\n")
  pure 0

def perform (name : String) (arguments : List String) : Deed Nat := do
  match name with
  | ":" | "true" => pure 0
  | "false" => pure 1
  | "echo" => do
    let dialect := Dialect.echoed
    put (echoedIn dialect (if (← get).isOn "xpg_echo" then "-e" :: arguments else arguments))
    pure 0
  | "printf" => printf arguments
  | "test" | "[" => test name arguments
  | "declare" | "typeset" | "local" => declare name arguments
  | "export" => markAll name 'x' arguments
  | "readonly" => markAll name 'r' arguments
  | "unset" => unset arguments
  | "let" => evaluate arguments
  | "set" => setAll arguments
  | "shopt" => switch arguments
  | "shift" => shift arguments
  | "umask" => umask arguments
  | "cd" => changeDirectory arguments
  | "pwd" => tellDirectory arguments
  | "pushd" => pushDirectory arguments
  | "popd" => popDirectory arguments
  | "dirs" => directories arguments
  | "read" => read arguments
  | "mapfile" | "readarray" => readLines name arguments
  | "type" => type arguments
  | "hash" => hash arguments
  | "alias" => nickname arguments
  | "unalias" => unalias arguments
  | "caller" => caller arguments
  | "enable" => enable arguments
  | "getopts" => findOption arguments
  | "trap" => trap arguments
  | "kill" => kill arguments
  | "wait" => wait arguments
  | "jobs" => listJobs arguments
  | "disown" => disown arguments
  | "fg" | "bg" => quit name "no job control" 1
  | "suspend" => quit name "cannot suspend: no job control" 1
  | "logout" => quit name "not login shell: use `exit'" 1
  | "times" => do
    writeText 1 "0m0.000s 0m0.000s\n0m0.000s 0m0.000s\n"
    pure 0
  | "ulimit" => limits arguments
  | _ => pure 127

end ChartManifests.Program.Rich
