import ChartManifests.Program.Beginning
import ChartManifests.Program.Rich.Options
/-!
How the rich shell begins: its arguments, and the parameters that it knows from the first.
-/

namespace ChartManifests.Program.Rich

/-- What a shell is asked for by its arguments: options and switches that are set or taken away,
where the script is, and whether only something about the shell is to be told. -/
structure Invocation where
  options : List (String × Bool)
  switches : List (String × Bool)
  givesText : Bool
  readsInput : Bool
  tells : Option String
  operands : List String

def Invocation.nothing : Invocation := ⟨[], [], false, false, none, []⟩

def longOptions : List String :=
  ["debug", "debugger", "dump-po-strings", "dump-strings", "help", "login", "noediting",
    "noprofile", "norc", "posix", "pretty-print", "restricted", "verbose", "version"]

def valuedLongOptions : List String := ["init-file", "rcfile"]

def usageText : String :=
  "Usage:\tbash [GNU long option] [option] ...\n\tbash [GNU long option] [option] script-file ...\n"
    ++ "GNU long options:\n"
    ++ String.join (((longOptions ++ valuedLongOptions).mergeSort fun left right =>
      left ≤ right).map fun name => "\t--" ++ name ++ "\n")
    ++ "Shell options:\n\t-ilrsD or -c command or -O shopt_option\t\t(invocation only)\n"
    ++ "\t-abefhkmnptuvxBCEHPT or -o option\n"

def version : String := "5.2.15(1)-release"

def versionText : String := "GNU bash, version " ++ version ++ " (x86_64-pc-linux-gnu)\n"

def takeLetters (title : String) (on : Bool) :
    List Char → List String → Invocation → Except String (Invocation × List String)
  | [], rest, invocation => .ok (invocation, rest)
  | letter :: letters, rest, invocation =>
    match letter with
    | 'c' => takeLetters title on letters rest { invocation with givesText := true }
    | 's' => takeLetters title on letters rest { invocation with readsInput := true }
    | 'i' | 'r' | 'D' => takeLetters title on letters rest invocation
    | 'l' => takeLetters title on letters rest
        { invocation with switches := invocation.switches ++ [("login_shell", true)] }
    | 'o' =>
      match rest with
      | [] => .ok (invocation, [])
      | name :: more =>
        if optionNames.contains name then
          takeLetters title on letters more
            { invocation with options := invocation.options ++ [(name, on)] }
        else .error (title ++ ": line 0: " ++ title ++ ": " ++ name ++ ": invalid option name\n")
    | 'O' =>
      match rest with
      | [] => .ok (invocation, [])
      | name :: more =>
        if switchNames.contains name then
          takeLetters title on letters more
            { invocation with switches := invocation.switches ++ [(name, on)] }
        else .error (title ++ ": line 0: " ++ name ++ ": invalid shell option name\n")
    | _ =>
      match optionLetters.find? fun entry => entry.2 = letter with
      | some (name, _) =>
        takeLetters title on letters rest
          { invocation with options := invocation.options ++ [(name, on)] }
      | none =>
        .error (title ++ ": " ++ String.ofList [if on then '-' else '+', letter]
          ++ ": invalid option\n" ++ usageText)

def invoked (title : String) : Nat → List String → Invocation → Except String Invocation
  | 0, words, invocation => .ok { invocation with operands := words }
  | _ + 1, [], invocation => .ok invocation
  | bound + 1, word :: rest, invocation =>
    match word.toList with
    | ['-'] | ['-', '-'] => .ok { invocation with operands := rest }
    | '-' :: '-' :: name =>
      let long := String.ofList name
      if valuedLongOptions.contains long then
        match rest with
        | [] => .error (title ++ ": " ++ long ++ ": option requires an argument\n")
        | _ :: more => invoked title bound more invocation
      else if long = "version" || long = "help" then
        invoked title bound rest
          { invocation with
            tells := some (if long = "version" then versionText
              else "GNU bash, version " ++ version ++ "-(x86_64-pc-linux-gnu)\n" ++ usageText) }
      else if long = "posix" then
        invoked title bound rest
          { invocation with options := invocation.options ++ [("posix", true)] }
      else if long = "verbose" then
        invoked title bound rest
          { invocation with options := invocation.options ++ [("verbose", true)] }
      else if long = "login" then
        invoked title bound rest
          { invocation with switches := invocation.switches ++ [("login_shell", true)] }
      else if longOptions.contains long then invoked title bound rest invocation
      else .error (title ++ ": " ++ word ++ ": invalid option\n" ++ usageText)
    | sign :: letters =>
      if (sign = '-' || sign = '+') && !letters.isEmpty then do
        let (next, behind) ← takeLetters title (sign = '-') letters rest invocation
        invoked title bound behind next
      else .ok { invocation with operands := word :: rest }
    | [] => .ok { invocation with operands := word :: rest }

def settledText (name value : String) (integer : Bool) : Parameter :=
  { Parameter.unknown name with content := some (.text value), fixed := true, integer }

def ownPath (state : State) (title : String) : String :=
  if hasSlash title then title else (search state title).toOption.getD ("/usr/bin/" ++ title)

def begin (title : String) : Run Unit := do
  let state ← get
  let default (name value : String) (state : State) : State :=
    if (state.value? name).isSome then state else state.store name value
  let fixed (parameter : Parameter) (state : State) : State :=
    state.change parameter.name fun _ => parameter
  let here? := (state.value? "PWD").filter fun path =>
    path.toList.head? = some Files.separator
      && (state.files.locate [] path).toOption = some state.current
  let path := here?.getD state.currentPath
  let own := ownPath state title
  let level := ((state.value? "SHLVL").bind String.toNat?).getD 0 + 1
  let lastWord := (state.value? "_").getD own
  let known := ({ state with
    path
    shell := state.identity
    options := ['h', 'B'] }.unset "_")
  let begun := { known with extras := some { Extras.first with
    lastWord
    secondsFrom := (state.clock, 0)
    seed := state.clock + state.identity } }
  let placed := (begun.store "PWD" path).exportName "PWD"
  let old := match placed.value? "OLDPWD" with
    | some before =>
      if placed.files.hasDirectory placed.current before then placed else placed.unset "OLDPWD"
    | none => placed
  let levelled := ((old.exportName "OLDPWD").store "SHLVL" (toString level)).exportName "SHLVL"
  let named := (((levelled.store "IFS" " \t\n").assign placeName "1").store "OPTERR" "1").store
    "BASH" own
  let described := ((named.store "BASH_VERSION" version)
    |> default "PATH" usualPath |> default "PS4" "+ " |> default "SHELL" "/bin/bash"
    |> default "TERM" "dumb" |> default "HOSTNAME" "localhost" |> default "HOSTTYPE" "x86_64"
    |> default "OSTYPE" "linux-gnu" |> default "MACHTYPE" "x86_64-pc-linux-gnu")
  let versions := ["5", "2", "15", "1", "release", "x86_64-pc-linux-gnu"]
  set (described
    |> fixed { Parameter.unknown "BASH_VERSINFO" with
        content := some (State.listOf versions), fixed := true }
    |> fixed (settledText "UID" "0" true) |> fixed (settledText "EUID" "0" true)
    |> fixed (settledText "PPID" (toString state.parent) true))

def apply (invocation : Invocation) : Run Unit :=
  modify fun state =>
    let optioned := invocation.options.foldl
      (fun state (name, on) => withOption state name on) state
    invocation.switches.foldl (fun state (name, on) =>
      state.withExtras fun extras =>
        let others := extras.switches.filter (· ≠ name)
        { extras with switches := if on then name :: others else others }) optioned

def takeText (text title : String) (arguments : List String) : Run Unit :=
  modify fun state =>
    { state.store "BASH_EXECUTION_STRING" text with
      title, arguments, options := 'c' :: state.options }.withExtras fun extras =>
        { extras with origin := some "-c" }

def takeInput (arguments : List String) : Run Unit :=
  modify fun state => { state with arguments, options := 's' :: state.options }

def takeFile (path : String) (arguments : List String) : Run Unit :=
  modify fun state => { state with title := path, arguments }.withExtras fun extras =>
    { extras with script := some path }

end ChartManifests.Program.Rich
