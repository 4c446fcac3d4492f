import ChartManifests.Program.Builtin.Settings
import ChartManifests.Program.Rich.Declaring
/-!
Options and switches of the rich shell, its arguments, and the mask for new files.
-/

namespace ChartManifests.Program.Rich

def optionNames : List String :=
  ["allexport", "braceexpand", "emacs", "errexit", "errtrace", "functrace", "hashall", "histexpand",
    "history", "ignoreeof", "interactive-comments", "keyword", "monitor", "noclobber", "noexec",
    "noglob", "nolog", "notify", "nounset", "onecmd", "physical", "pipefail", "posix", "privileged",
    "verbose", "vi", "xtrace"]

def letterOrder : List Char := "abefhkmnptuvxBCEHPTcs".toList

def switchNames : List String :=
  ["autocd", "assoc_expand_once", "cdable_vars", "cdspell", "checkhash", "checkjobs",
    "checkwinsize", "cmdhist", "compat31", "compat32", "compat40", "compat41", "compat42",
    "compat43", "compat44", "complete_fullquote", "direxpand", "dirspell", "dotglob", "execfail",
    "expand_aliases", "extdebug", "extglob", "extquote", "failglob", "force_fignore",
    "globasciiranges", "globskipdots", "globstar", "gnu_errfmt", "histappend", "histreedit",
    "histverify", "hostcomplete", "huponexit", "inherit_errexit", "interactive_comments",
    "lastpipe", "lithist", "localvar_inherit", "localvar_unset", "login_shell", "mailwarn",
    "no_empty_cmd_completion", "nocaseglob", "nocasematch", "noexpand_translation", "nullglob",
    "patsub_replacement", "progcomp", "progcomp_alias", "promptvars", "restricted_shell",
    "shift_verbose", "sourcepath", "varredir_close", "xpg_echo"]

def tableLine (name : String) (on : Bool) : String :=
  name ++ String.ofList (List.replicate (15 - name.length) ' ') ++ "\t"
    ++ (if on then "on\n" else "off\n")

def withOption (state : State) (name : String) (on : Bool) : State :=
  match optionLetters.lookup name with
  | some letter =>
    let others := state.options.filter (· ≠ letter)
    { state with options := if on then letter :: others else others }
  | none => state.withExtras fun extras =>
    let others := extras.named.filter (· ≠ name)
    { extras with named := if on then name :: others else others }

def switchLetter (name : String) (on : Bool) (letter : Char) : Deed Unit := do
  match optionLetters.find? fun entry => entry.2 = letter with
  | some (option, _) => modify fun state => withOption state option on
  | none => do
    blame name (String.ofList [if on then '-' else '+', letter] ++ ": invalid option")
    misused name

def switchName (name : String) (on : Bool) (word : String) : Deed Unit := do
  if optionNames.contains word then modify fun state => withOption state word on
  else quit name (word ++ ": invalid option name") (if name = "set" then 2 else 1)

def optionTable (state : State) (script : Bool) : String :=
  String.join (optionNames.map fun name =>
    if script then "set " ++ (if isSet state name then "-o " else "+o ") ++ name ++ "\n"
    else tableLine name (isSet state name))

def switchOptions : List String → Deed (List String × Bool)
  | [] => pure ([], false)
  | word :: rest =>
    match word.toList with
    | ['-'] => do
      modify fun state => withOption (withOption state "xtrace" false) "verbose" false
      pure (rest, false)
    | ['-', '-'] => pure (rest, true)
    | sign :: letters =>
      if sign = '-' ∨ (sign = '+' ∧ letters ≠ []) then do
        for letter in letters.filter (· ≠ 'o') do
          switchLetter "set" (sign = '-') letter
        if !letters.contains 'o' then switchOptions rest
        else
          match rest with
          | [] =>
            writeText 1 (optionTable (← get) (sign = '+'))
            pure ([], false)
          | named :: more =>
            switchName "set" (sign = '-') named
            switchOptions more
      else pure (word :: rest, false)
    | [] => pure (word :: rest, false)

def setAll (arguments : List String) : Deed Nat := do
  if arguments.isEmpty then
    writeText 1 (listing (← get))
  else
    let (operands, always) ← switchOptions arguments
    if always || !operands.isEmpty then Builtin.setArguments operands
  pure 0

def switch (arguments : List String) : Deed Nat := do
  let (given, operands) ← letters "shopt" "psuqo".toList arguments
  let has (letter : Char) : Bool := given.contains letter
  let names := if has 'o' then optionNames else switchNames
  let isOn (state : State) (name : String) : Bool :=
    if has 'o' then isSet state name else state.isOn name
  let shown (state : State) (name : String) : String :=
    if has 'p' then
      if has 'o' then "set " ++ (if isOn state name then "-o " else "+o ") ++ name ++ "\n"
      else "shopt " ++ (if isOn state name then "-s " else "-u ") ++ name ++ "\n"
    else tableLine name (isOn state name)
  if operands.isEmpty then do
    let state ← get
    let chosen := names.filter fun name =>
      (!has 's' || isOn state name) && (!has 'u' || !isOn state name)
    if !has 'q' then writeText 1 (String.join (chosen.map (shown state)))
    pure 0
  else do
    let mut status := 0
    for name in operands do
      let state ← get
      if !names.contains name then do
        blame "shopt" (name ++ ": invalid " ++ (if has 'o' then "option" else "shell option")
          ++ " name")
        status := 1
      else if has 's' || has 'u' then
        if has 'o' then set (withOption state name (has 's'))
        else
          set (state.withExtras fun extras =>
            let others := extras.switches.filter (· ≠ name)
            { extras with switches := if has 's' then name :: others else others })
      else do
        if !has 'q' then writeText 1 (shown state name)
        if !isOn state name then status := 1
    pure status

def shift (arguments : List String) : Deed Nat := do
  let state ← get
  let count ← match arguments with
    | [] => pure 1
    | word :: _ =>
      match integer? word with
      | some count => pure count
      | none => quit "shift" (word ++ ": numeric argument required") 1
  if 1 < arguments.length then quit "shift" "too many arguments" 1
  else if count < 0 then
    quit "shift" (arguments.headD "" ++ ": shift count out of range") 1
  else if (state.arguments.length : Int) < count then
    if state.isOn "shift_verbose" then
      quit "shift" (arguments.headD "" ++ ": shift count out of range") 1
    else pure 1
  else do
    Builtin.setArguments (state.arguments.drop count.toNat)
    pure 0

def umask (arguments : List String) : Deed Nat := do
  let (given, operands) ← letters "umask" ['p', 'S'] arguments
  let state ← get
  let symbolic := given.contains 'S'
  let text (state : State) : String :=
    if symbolic then Builtin.maskText state.mask else Builtin.octalText 4 state.mask
  match operands with
  | [] => do
    let opening := if given.contains 'p' then "umask " ++ (if symbolic then "-S " else "") else ""
    writeText 1 (opening ++ text state ++ "\n")
    pure 0
  | word :: _ =>
    if (word.toList.head?.map Char.isDigit).getD false then
      if word.toList.all Shell.Arithmetic.isOctal && Shell.Arithmetic.valueOf 8 word.toList < 512
      then do
        set { state with mask := Shell.Arithmetic.valueOf 8 word.toList }
        if symbolic then writeText 1 (text (← get) ++ "\n")
        pure 0
      else quit "umask" (word ++ ": octal number out of range") 1
    else
      match Permission.change? word with
      | some change => do
        let granted := Permission.applied change 0 false (Permission.ofDirectory - state.mask)
        set { state with mask := Permission.without granted Permission.ofDirectory }
        if symbolic then writeText 1 (text (← get) ++ "\n")
        pure 0
      | none =>
        let odd := (word.toList.dropWhile fun letter => "ugoa".toList.contains letter).head?
        quit "umask" ("`" ++ String.ofList odd.toList ++ "': invalid symbolic mode operator") 1

end ChartManifests.Program.Rich
