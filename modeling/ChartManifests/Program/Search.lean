import ChartManifests.Program.State
/-!
Finding programs: under a path, or by a name below the directories of a search path. A script names
the program that runs it in its first line, which may name a script again.
-/

namespace ChartManifests.Program

def startText : FileFault → String
  | .missing | .notDirectory => "not found"
  | fault => fault.wording

def startStatus : FileFault → Nat
  | .missing | .notDirectory | .nameTooLong => 127
  | _ => 126

def defaultPath : String := "/bin:/usr/bin"

def usualPath : String := "/usr/local/sbin:/usr/local/bin:/usr/sbin:/usr/bin:/sbin:/bin"

def hasSlash (name : String) : Bool := name.toList.contains Files.separator

def startable (files : Files) (current : Location) (path : String) :
    Except FileFault (Location × Entry) := do
  let (location, entry) ← files.find current path
  match entry with
  | .utility _ => .ok (location, entry)
  | .file _ =>
    if Permission.allowsRunning (files.modeAt location) then .ok (location, entry)
    else .error .denied
  | _ => .error .denied

def below (directory name : String) : String :=
  if directory = "" then name
  else if directory.toList.getLast? = some Files.separator then directory ++ name
  else directory ++ "/" ++ name

def search (state : State) (name : String) : Except FileFault String :=
  if hasSlash name then .ok name
  else
    let directories := match state.value? "PATH" with
      | some path => (Text.splitAt ':' path.toList).map String.ofList
      | none => []
    let candidates := directories.map fun directory =>
      if directory = "" then "./" ++ name else below directory name
    match candidates.find? fun path =>
      (startable state.files state.current path).toOption.isSome with
    | some path => .ok path
    | none =>
      if candidates.any fun path => match state.files.find state.current path with
        | .ok (_, .file _) => true
        | _ => false
      then .error .denied
      else .error .missing

/-- What a path starts in the end: a utility, or a file without a first line that names a program,
with the words that it is started with. -/
inductive Resolved
  | utility (name : String) (words : List String)
  | plain (path : String) (content : Text.Bytes) (words : List String)

def longestFirstLine : Nat := 256

/-- The first line of a script that names the program for it: the program and an argument. A line
that does not end where the look does may have its argument cut, but not the program. -/
def interpreterLine (content : Text.Bytes) : Option (String × Option String) :=
  let isBlank (byte : UInt8) : Bool := byte = 32 || byte = 9
  let parts (line : Text.Bytes) : Option (String × Option String) :=
    let trimmed := ((line.dropWhile isBlank).reverse.dropWhile isBlank).reverse
    let name := trimmed.takeWhile fun byte => !isBlank byte && byte ≠ 0
    let behind := trimmed.drop name.length
    let argument := (behind.dropWhile isBlank).takeWhile (· ≠ 0)
    if name.isEmpty then none
    else
      some (Text.ofOctets name,
        if behind.head?.any isBlank then some (Text.ofOctets argument) else none)
  let looked := content.take longestFirstLine
  match looked with
  | 35 :: 33 :: rest =>
    let line := (rest.takeWhile (· ≠ 0)).takeWhile (· ≠ 10)
    if rest[line.length]? = some 10 then parts line
    else
      let filled := rest ++ List.replicate (longestFirstLine - looked.length) 0
      let begun := filled.dropWhile isBlank
      if begun.any fun byte => isBlank byte || byte = 0 then parts filled.dropLast else none
  | _ => none

def longestChain : Nat := 6

def resolve (files : Files) (current : Location) : Nat → String → List String →
    Except FileFault Resolved
  | 0, _, _ => .error .tooManyLinks
  | count + 1, path, words => do
    match ← startable files current path with
    | (_, .utility name) => .ok (.utility name words)
    | (_, .file content) =>
      match interpreterLine content with
      | some (name, argument) =>
        resolve files current count name ([name] ++ argument.toList ++ [path] ++ words.drop 1)
      | none => .ok (.plain path content words)
    | _ => .error .denied

end ChartManifests.Program
