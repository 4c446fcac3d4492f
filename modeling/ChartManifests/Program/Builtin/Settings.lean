import ChartManifests.Host.Mode
import ChartManifests.Program.Builtin
import ChartManifests.Program.State
/-!
The settings of a shell: its parameters and what is marked on them, its options, its arguments, and
other names for commands.

A script looks for options among its arguments one letter after the other. Letters may stand
together behind one dash; a letter with a value takes the rest of its word or the next word. Two
dashes or a word without a dash end the search.
-/

namespace ChartManifests.Program

/-- What a search for the next option comes to: there is none, a letter without a value, a letter
with one, a letter that is not known, or one whose value is not there. -/
inductive OptionFound
  | none
  | letter (name : Char)
  | valued (name : Char) (value : String)
  | unknown (name : Char)
  | lacking (name : Char)
deriving DecidableEq, Repr

namespace OptionFound

def shown (silent : Bool) : OptionFound → String
  | none | unknown _ => "?"
  | letter name | valued name _ => String.singleton name
  | lacking _ => if silent then ":" else "?"

def value? (silent : Bool) : OptionFound → Option (Option String)
  | none => .none
  | letter _ => some (some "")
  | valued _ value => some (some value)
  | unknown name | lacking name => some (if silent then some (String.singleton name) else .none)

def complaint? : OptionFound → Option String
  | unknown name => some ("Illegal option -" ++ String.singleton name)
  | lacking name => some ("No arg for -" ++ String.singleton name ++ " option")
  | _ => .none

end OptionFound

def takesValue? (name : Char) : List Char → Option Bool
  | [] => none
  | letter :: ':' :: rest => if letter = name then some true else takesValue? name rest
  | letter :: rest => if letter = name then some false else takesValue? name rest

def lettersLeft (arguments : List String) (place : OptionPlace) : List Char :=
  match place.inside with
  | some count =>
    if place.next ≤ 1 then [] else ((arguments[place.next - 2]?).getD "").toList.drop count
  | none => []

def nextLetters (arguments : List String) (place : OptionPlace) : List Char × Nat :=
  match lettersLeft arguments place with
  | [] =>
    match (arguments[place.next - 1]?).map String.toList with
    | some ['-', '-'] => ([], place.next + 1)
    | some ('-' :: letters) => (letters, if letters.isEmpty then place.next else place.next + 1)
    | _ => ([], place.next)
  | letters => (letters, place.next)

def nextOption (options : List Char) (arguments : List String) (place : OptionPlace) :
    OptionFound × OptionPlace :=
  match nextLetters arguments place with
  | ([], next) => (.none, ⟨next, none⟩)
  | (name :: rest, next) =>
    let inside := ((arguments[next - 2]?).getD "").length - rest.length
    match takesValue? name options with
    | none => (.unknown name, ⟨next, some inside⟩)
    | some false => (.letter name, ⟨next, some inside⟩)
    | some true =>
      if rest ≠ [] then (.valued name (String.ofList rest), ⟨next, none⟩)
      else
        match arguments[next - 1]? with
        | some value => (.valued name value, ⟨next + 1, none⟩)
        | none => (.lacking name, ⟨next, none⟩)

end ChartManifests.Program

namespace ChartManifests.Program.Builtin

def nameAndValue (word : String) : String × Option String :=
  let name := word.toList.takeWhile (· ≠ '=')
  match word.toList.drop name.length with
  | _ :: value => (String.ofList name, some (String.ofList value))
  | [] => (word, none)

def declare (name : String) (mark : String → State → State) (shown : Parameter → Bool)
    (arguments : List String) : Run Nat := do
  let (given, operands) ← letters name ['p'] arguments
  if operands.isEmpty || given.contains 'p' then
    writeText 1 (Parameter.listing (name ++ " ") ((← get).parameters.filter shown))
    pure 0
  else
    for word in operands do
      let (parameter, value) := nameAndValue word
      match value with
      | some text => assign name parameter text
      | none =>
        if !isParameterName parameter then refuse name (parameter ++ ": bad variable name")
      modify (mark parameter)
    pure 0

def exportAll (arguments : List String) : Run Nat :=
  declare "export" (fun name state => state.exportName name) Parameter.exported arguments

def fixAll (arguments : List String) : Run Nat :=
  declare "readonly" (fun name state => state.fixName name) Parameter.fixed arguments

def keepLocals (arguments : List String) : Run Nat := do
  for word in arguments do
    let (parameter, value) := nameAndValue word
    let state ← get
    match state.locals with
    | none => refuse "local" "not in a function"
    | some kept =>
      if !isParameterName parameter then refuse "local" (parameter ++ ": bad variable name")
      else
        set { state with locals := some ((parameter, state.find parameter) :: kept) }
        match value with
        | some text => assign "local" parameter text
        | none => pure ()
  if (← get).locals.isNone then refuse "local" "not in a function" else pure 0

def unset (arguments : List String) : Run Nat := do
  let (given, operands) ← letters "unset" ['v', 'f'] arguments
  for name in operands do
    let state ← get
    if given.getLast? = some 'f' then
      set { state with functions := state.functions.filter fun entry => entry.1 ≠ name }
    else if !isParameterName name then refuse "unset" (name ++ ": bad variable name")
    else if state.isFixed name then refuse "unset" (name ++ ": is read only")
    else set (state.unset name)
  pure 0

def findOption (arguments : List String) : Run Nat := do
  match arguments with
  | spelled :: name :: given =>
    let state ← get
    let words := if given.isEmpty then state.arguments else given
    let place := if words.length + 1 < state.place.next then .first else state.place
    let (found, next) := nextOption spelled.toList words place
    let silent := spelled.toList.head? = some ':'
    match found.complaint? with
    | some text => if !silent then writeText 2 (text ++ "\n")
    | none => pure ()
    match found.value? silent with
    | some (some value) => modify fun state => state.assign "OPTARG" value
    | some none => modify fun state => state.unset "OPTARG"
    | none => pure ()
    modify fun state => { state.store placeName (toString next.next) with place := next }
    assign "getopts" name (found.shown silent)
    pure (if found = .none then 1 else 0)
  | _ => refuse "getopts" "Usage: getopts optstring var [arg...]"

def optionNames : List (String × Option Char) :=
  [("errexit", some 'e'), ("noglob", some 'f'), ("ignoreeof", some 'I'), ("interactive", some 'i'),
    ("monitor", some 'm'), ("noexec", some 'n'), ("stdin", some 's'), ("xtrace", some 'x'),
    ("verbose", some 'v'), ("vi", some 'V'), ("emacs", some 'E'), ("noclobber", some 'C'),
    ("allexport", some 'a'), ("notify", some 'b'), ("nounset", some 'u'), ("nolog", none),
    ("debug", none)]

def optionTable (state : State) : String :=
  "Current option settings\n" ++ String.join (optionNames.map fun (name, letter) =>
    let padding := String.ofList (List.replicate (16 - name.length) ' ')
    name ++ padding ++ (if letter.any state.options.contains then "on\n" else "off\n"))

def optionScript (state : State) : String :=
  String.join (optionNames.map fun (name, letter) =>
    "set " ++ (if letter.any state.options.contains then "-o " else "+o ") ++ name ++ "\n")

def switchLetter (name : String) (on : Bool) (letter : Char) : Run Unit :=
  if optionOrder.contains letter then
    modify fun state =>
      let others := state.options.filter (· ≠ letter)
      { state with options := if on then letter :: others else others }
  else refuse name ("Illegal option -" ++ String.singleton letter)

def switchName (name : String) (on : Bool) (word : String) : Run Unit :=
  match optionNames.lookup word with
  | some (some letter) => switchLetter name on letter
  | some none => pure ()
  | none => refuse name ("Illegal option -o " ++ word)

def switchOptions (name : String) : List String → Run (List String × Bool)
  | [] => pure ([], false)
  | word :: rest =>
    match word.toList with
    | ['-'] => do
      modify fun state => { state with options := state.options.filter fun letter =>
        letter ≠ 'x' && letter ≠ 'v' }
      pure (rest, false)
    | ['-', '-'] => pure (rest, true)
    | sign :: letters =>
      if sign = '-' ∨ sign = '+' then do
        for letter in letters.filter (· ≠ 'o') do
          switchLetter name (sign = '-') letter
        if !letters.contains 'o' then switchOptions name rest
        else
          match rest with
          | [] =>
            let state ← get
            writeText 1 (if sign = '-' then optionTable state else optionScript state)
            pure ([], false)
          | named :: more =>
            switchName name (sign = '-') named
            switchOptions name more
      else pure (word :: rest, false)
    | [] => pure (word :: rest, false)

def setAll (arguments : List String) : Run Nat := do
  if arguments.isEmpty then
    writeText 1 (Parameter.listing ""
      ((← get).parameters.filter fun parameter => parameter.value.isSome))
  else
    let (operands, dashed) ← switchOptions "set" arguments
    if dashed || !operands.isEmpty then setArguments operands
  pure 0

def shift (arguments : List String) : Run Nat := do
  let state ← get
  let count ← match arguments with
    | [] => pure 1
    | word :: _ => number "shift" word
  if state.arguments.length < count then refuse "shift" "can't shift that many"
  else
    setArguments (state.arguments.drop count)
    pure 0

def octalText (least number : Nat) : String :=
  let digits := Nat.toDigits 8 number
  String.ofList (List.replicate (least - digits.length) '0' ++ digits)

def maskText (mask : Nat) : String :=
  let granted (shift : Nat) : String :=
    let bits := 7 - mask / 8 ^ shift % 8
    (if bits / 4 % 2 = 1 then "r" else "") ++ (if bits / 2 % 2 = 1 then "w" else "")
      ++ (if bits % 2 = 1 then "x" else "")
  "u=" ++ granted 2 ++ ",g=" ++ granted 1 ++ ",o=" ++ granted 0

def umask (arguments : List String) : Run Nat := do
  let (given, operands) ← letters "umask" ['S'] arguments
  let state ← get
  match operands with
  | [] =>
    writeText 1 ((if given.contains 'S' then maskText state.mask else octalText 4 state.mask)
      ++ "\n")
    pure 0
  | word :: _ =>
    if (word.toList.head?.map Char.isDigit).getD false then
      if word.toList.all Shell.Arithmetic.isOctal then
        let mask := Shell.Arithmetic.valueOf 8 word.toList % 512
        set { state with mask }
        pure 0
      else refuse "umask" ("Illegal number: " ++ word)
    else
      match Permission.change? word with
      | some change =>
        let granted := Permission.applied change 0 false (Permission.ofDirectory - state.mask)
        set { state with mask := Permission.without granted Permission.ofDirectory }
        pure 0
      | none => refuse "umask" ("Illegal mode: " ++ word)

def nickname (arguments : List String) : Run Nat := do
  let line (entry : String × String) : String :=
    entry.1 ++ "=" ++ Parameter.quoted entry.2 ++ "\n"
  match arguments with
  | [] =>
    writeText 1 (String.join ((← get).aliases.map line))
    pure 0
  | words =>
    let mut status := 0
    for word in words do
      let state ← get
      match nameAndValue word with
      | (name, some value) =>
        let others := state.aliases.filter fun entry => entry.1 ≠ name
        set { state with aliases := others ++ [(name, value)] }
      | (name, none) =>
        match state.aliases.lookup name with
        | some value => writeText 1 (line (name, value))
        | none =>
          writeText 2 ("alias: " ++ name ++ " not found\n")
          status := 1
    pure status

def unalias (arguments : List String) : Run Nat := do
  let (given, operands) ← letters "unalias" ['a'] arguments
  if given.contains 'a' then modify fun state => { state with aliases := [] }
  let mut status := 0
  for name in operands do
    let state ← get
    if (state.aliases.lookup name).isNone then
      writeText 2 ("unalias: " ++ name ++ " not found\n")
      status := 1
    let others := state.aliases.filter fun entry => entry.1 ≠ name
    set { state with aliases := others }
  pure status

end ChartManifests.Program.Builtin
