import ChartManifests.Program.Builtin
/-!
What the utilities of the rich shell have in common: how they take options, how they complain, and
how each of them is to be used.
-/

namespace ChartManifests.Program.Rich

abbrev Deed (α : Type) : Type := ExceptT Nat Run α

def Deed.status (deed : Deed Nat) : Run Nat := do
  match ← deed.run with
  | .ok status | .error status => pure status

def usages : List (String × String) :=
  [("alias", "[-p] [name[=value] ... ]"),
    ("builtin", "[shell-builtin [arg ...]]"),
    ("caller", "[expr]"),
    ("cd", "[-L|[-P [-e]] [-@]] [dir]"),
    ("command", "[-pVv] command [arg ...]"),
    ("declare", "[-aAfFgiIlnrtux] [name[=value] ...] or declare -p [-aAfFilnrtux] [name ...]"),
    ("dirs", "[-clpv] [+N] [-N]"),
    ("disown", "[-h] [-ar] [jobspec ... | pid ...]"),
    ("enable", "[-a] [-dnps] [-f filename] [name ...]"),
    ("eval", "[arg ...]"),
    ("exec", "[-cl] [-a name] [command [argument ...]] [redirection ...]"),
    ("export", "[-fn] [name[=value] ...] or export -p"),
    ("getopts", "optstring name [arg ...]"),
    ("hash", "[-lr] [-p pathname] [-dt] [name ...]"),
    ("jobs", "[-lnprs] [jobspec ...] or jobs -x command [args]"),
    ("kill", "[-s sigspec | -n signum | -sigspec] pid | jobspec ... or kill -l [sigspec]"),
    ("let", "arg [arg ...]"),
    ("local", "[option] name[=value] ..."),
    ("mapfile",
      "[-d delim] [-n count] [-O origin] [-s count] [-t] [-u fd] [-C callback] [-c quantum] "
        ++ "[array]"),
    ("popd", "[-n] [+N | -N]"),
    ("printf", "[-v var] format [arguments]"),
    ("pushd", "[-n] [+N | -N | dir]"),
    ("pwd", "[-LP]"),
    ("read",
      "[-ers] [-a array] [-d delim] [-i text] [-n nchars] [-N nchars] [-p prompt] [-t timeout] "
        ++ "[-u fd] [name ...]"),
    ("readarray",
      "[-d delim] [-n count] [-O origin] [-s count] [-t] [-u fd] [-C callback] [-c quantum] "
        ++ "[array]"),
    ("readonly", "[-aAf] [name[=value] ...] or readonly -p"),
    ("set", "[-abefhkmnptuvxBCEHPT] [-o option-name] [--] [-] [arg ...]"),
    ("shopt", "[-pqsu] [-o] [optname ...]"),
    ("source", "filename [arguments]"),
    (".", "filename [arguments]"),
    ("trap", "[-lp] [[arg] signal_spec ...]"),
    ("type", "[-afptP] name [name ...]"),
    ("typeset", "[-aAfFgiIlnrtux] name[=value] ... or typeset -p [-aAfFilnrtux] [name ...]"),
    ("ulimit", "[-SHabcdefiklmnpqrstuvxPRT] [limit]"),
    ("umask", "[-p] [-S] [mode]"),
    ("unalias", "[-a] name [name ...]"),
    ("unset", "[-f] [-v] [-n] [name ...]"),
    ("wait", "[-fn] [-p var] [id ...]")]

def blame (name text : String) : Run Unit := speakingAs (some name) (complain text)

def failing (name text : String) (status : Nat) : Run Nat := do
  blame name text
  pure status

def quit {α : Type} (name text : String) (status : Nat) : Deed α := do
  blame name text
  throw status

def showUsage (name : String) : Run Unit :=
  match usages.lookup name with
  | some text => writeText 2 (name ++ ": usage: " ++ name ++ " " ++ text ++ "\n")
  | none => pure ()

def misused {α : Type} (name : String) : Deed α := do
  showUsage name
  throw 2

/-- The options in front of the operands, and the operands. Letters in `allowed` stand alone, those
in `valued` have a value. -/
def options (name : String) (allowed valued : List Char) :
    List String → Deed (List (Char × String) × List String)
  | [] => pure ([], [])
  | word :: rest =>
    match word.toList with
    | ['-', '-'] => pure ([], rest)
    | '-' :: letter :: letters => do
      let alone := (letter :: letters).takeWhile allowed.contains
      let given := alone.map fun found => (found, "")
      match (letter :: letters).drop alone.length with
      | [] => do
        let (others, operands) ← options name allowed valued rest
        pure (given ++ others, operands)
      | odd :: value =>
        if !valued.contains odd then do
          blame name ("-" ++ String.singleton odd ++ ": invalid option")
          misused name
        else if !value.isEmpty then do
          let (others, operands) ← options name allowed valued rest
          pure (given ++ [(odd, String.ofList value)] ++ others, operands)
        else
          match rest with
          | [] => do
            blame name ("-" ++ String.singleton odd ++ ": option requires an argument")
            misused name
          | next :: more => do
            let (others, operands) ← options name allowed valued more
            pure (given ++ [(odd, next)] ++ others, operands)
    | _ => pure ([], word :: rest)

def letters (name : String) (allowed : List Char) (arguments : List String) :
    Deed (List Char × List String) := do
  let (given, operands) ← options name allowed [] arguments
  pure (given.map Prod.fst, operands)

def integer? (word : String) : Option Int :=
  let isBlank (character : Char) : Bool := character.isWhitespace
  let trimmed := ((word.toList.dropWhile isBlank).reverse.dropWhile isBlank).reverse
  (Shell.Brace.integer? trimmed).filter fun value => -(2 ^ 63) ≤ value && value < 2 ^ 63

def assign (name word : String) (value : String) : Deed Unit := do
  let place := Calculation.placeOf word none
  if !isParameterName place.name then
    quit name ("`" ++ word ++ "': not a valid identifier") 1
  else
    match assignPlace (← get) place false value with
    | .ok state => set state
    | .error (.fixed fixed) => quit name (fixed ++ ": readonly variable") 1
    | .error fault => quit name fault.message 1

def withLineEnd (characters : List Char) : List Char :=
  if characters.getLast? = some '\n' then characters else characters ++ ['\n']

def builtins : List String :=
  [".", ":", "[", "alias", "bg", "break", "builtin", "caller", "cd", "command", "continue",
    "declare", "dirs", "disown", "echo", "enable", "eval", "exec", "exit", "export", "false", "fg",
    "getopts", "hash", "jobs", "kill", "let", "local", "logout", "mapfile", "popd", "printf",
    "pushd", "pwd", "read", "readarray", "readonly", "return", "set", "shift", "shopt", "source",
    "suspend", "test", "times", "trap", "true", "type", "typeset", "ulimit", "umask", "unalias",
    "unset", "wait"]

end ChartManifests.Program.Rich
