import ChartManifests.Program.Search
import ChartManifests.Program.Signal
import ChartManifests.Program.Utility.Tree
/-!
Utilities that start another program: in another environment, with words that come in, for a limited
time, or just so.
-/

namespace ChartManifests.Program.Utility

/-- How a utility starts other programs: in its own place, which it only comes back from with the
reason why that cannot be done, or beside itself, with the number of the program. -/
structure Launcher where
  become : List String → Run FileFault
  start : List String → Run (Except FileFault Nat)

def Launcher.finish (launcher : Launcher) (words : List String) :
    Run (Except FileFault Finish) := do
  match ← launcher.start words with
  | .error fault => pure (.error fault)
  | .ok identity => do pure (.ok (← Run.ending identity))

def handOn (launcher : Launcher) (words : List String) (refusal : String → String) : Run Nat := do
  let fault ← launcher.become words
  complain (refusal (words.headD "") ++ ": " ++ fault.wording)
  pure (startStatus fault)

def plainRefusal (name : String) : String := Text.quotedName name

def runningRefusal (name : String) : String := "failed to run command " ++ Text.quotedName name

def printEnvironment (ending : String) : Run Unit := do
  for entry in (← get).environment do
    putText (entry.1 ++ "=" ++ entry.2 ++ ending)

def environmentOptions : Options where
  alone := "i0v"
  valued := "uCS"
  long := [("ignore-environment", 'i'), ("null", '0'), ("unset", 'u'), ("chdir", 'C'),
    ("split-string", 'S'), ("debug", 'v')]
  status := 125
  first := true

def withSplitWords : List String → List String
  | "-S" :: text :: rest =>
    ((Text.splitAt ' ' text.toList).filter (· ≠ [])).map String.ofList ++ rest
  | word :: rest =>
    match word.toList with
    | '-' :: 'S' :: text =>
      ((Text.splitAt ' ' text).filter (· ≠ [])).map String.ofList ++ rest
    | _ => word :: rest
  | [] => []

def env (launcher : Launcher) (arguments : List String) : Run Nat := do
  let (given, operands) ← environmentOptions.read (withSplitWords arguments)
  let cleared := given.has 'i' || operands.head? = some "-"
  let words := if operands.head? = some "-" then operands.drop 1 else operands
  if cleared then modify fun state => { state with parameters := [] }
  for entry in given do
    if entry.1 = 'u' then modify fun state => state.unset entry.2
  let bindings := words.takeWhile fun word => word.toList.contains '='
  for binding in bindings do
    let name := String.ofList (binding.toList.takeWhile (· ≠ '='))
    let value := String.ofList (binding.toList.drop (name.length + 1))
    modify fun state => (state.assign name value).exportName name
  match given.last? 'C' with
  | none => pure ()
  | some path =>
    match ← lookUp path with
    | .ok (location, .directory) => modify fun state => { state with current := location }
    | .ok _ =>
      fail 125 ("cannot change directory to " ++ Text.quotedName path ++ ": Not a directory")
    | .error fault =>
      fail 125 ("cannot change directory to " ++ Text.quotedName path ++ ": " ++ fault.wording)
  match words.drop bindings.length with
  | [] => do
    printEnvironment (if given.has '0' then "\x00" else "\n")
    pure 0
  | command => handOn launcher command plainRefusal

def timeOptions : Options where
  alone := "fpv!"
  valued := "ks"
  long := [("foreground", 'f'), ("preserve-status", '!'), ("kill-after", 'k'), ("signal", 's'),
    ("verbose", 'v')]
  status := 125
  first := true

def duration? (text : String) : Option Nat :=
  let (digits, unit) := match text.toList.reverse with
    | 's' :: rest => (rest.reverse, 1)
    | 'm' :: rest => (rest.reverse, 60)
    | 'h' :: rest => (rest.reverse, 3600)
    | 'd' :: rest => (rest.reverse, 86400)
    | _ => (text.toList, 1)
  let whole := digits.takeWhile Char.isDigit
  let fraction := match digits.drop whole.length with
    | '.' :: rest => some rest
    | [] => some []
    | _ => none
  match fraction with
  | none => none
  | some fraction =>
    if (whole.isEmpty && fraction.isEmpty) || !fraction.all Char.isDigit then none
    else
      let scaled := (fraction ++ List.replicate 6 '0').take 6
      some ((((String.ofList whole).toNat?.getD 0) * 1000000
        + (String.ofList scaled).toNat?.getD 0) * unit)

def signalOf? (name : String) : Option Nat :=
  Signal.number? (if name.startsWith "SIG" then (name.drop 3).toString else name)

def signalGroup (identity group signal : Nat) : Run Unit := do
  modify fun state => { state with
    traps := (signal, "") :: state.traps.filter (·.1 ≠ signal)
    signals := state.signals ++ [(.one identity, signal), (.group group, signal)] }
  Run.yield

def watch (identity : Nat) (deadline : Option Nat) : Run (Option Finish) := do
  Run.await ⟨.ending [identity], deadline, false⟩
  Run.finishOf? identity

def reported (finish : Finish) : Run Nat :=
  match finish with
  | .status status => pure status
  | .signal number => Run.finish (.signal number)

def timeout (launcher : Launcher) (arguments : List String) : Run Nat := do
  let (given, operands) ← timeOptions.read arguments
  let durationOf (text : String) : Run Nat :=
    match duration? text with
    | some duration => pure duration
    | none => misuse 125 ("invalid time interval " ++ Text.quotedWord text)
  match operands with
  | [] | [_] => do
    writeText 2 ((← hint) ++ "\n")
    pure 125
  | text :: command => do
    let later ← match given.last? 'k' with
      | some text => do pure (some (← durationOf text))
      | none => pure none
    let signal ← match given.last? 's' with
      | some name =>
        match signalOf? name with
        | some signal => pure signal
        | none => misuse 125 (Text.quotedWord name ++ ": invalid signal")
      | none => pure 15
    let duration ← durationOf text
    if !given.has 'f' then modify fun state => { state with group := state.identity }
    match ← launcher.start command with
    | .error fault => do
      complain (runningRefusal (command.headD "") ++ ": " ++ fault.wording)
      pure (startStatus fault)
    | .ok identity => do
      let state ← get
      let after (duration : Nat) : Option Nat :=
        if duration = 0 then none else some (state.clock + duration)
      let send (signal : Nat) : Run Unit := do
        if given.has 'v' then
          complain ("sending signal " ++ ((Signal.names[signal]?).getD "") ++ " to command "
            ++ Text.quotedWord (command.headD ""))
        if given.has 'f' then do
          modify fun state => { state with
            signals := state.signals ++ [(.one identity, signal)] }
          Run.yield
        else signalGroup identity state.group signal
      match ← watch identity (after duration) with
      | some finish => reported finish
      | none => do
        send signal
        let first ← watch identity ((later.bind after).map (· + duration))
        let (last, finish) ← match first with
          | some finish => pure (signal, finish)
          | none => do
            send 9
            pure (9, ← Run.ending identity)
        if last = 9 && !given.has 'f' then Run.finish (.signal 9)
        else if given.has '!' then pure finish.toStatus
        else pure (if finish = .signal 9 then 137 else 124)

def sleep (arguments : List String) : Run Nat := do
  let (_, operands) ← (Options.nothing 1 false).read arguments
  let isEndless (word : String) : Bool := word = "infinity" || word = "inf"
  let odd := operands.filter fun word => (duration? word).isNone && !isEndless word
  if operands.isEmpty then missing 1
  else
    match odd with
    | word :: others => do
      for word in (word :: others).dropLast do
        complain ("invalid time interval " ++ Text.quotedWord word)
      misuse 1 ("invalid time interval " ++ Text.quotedWord ((others.getLast?.getD word)))
    | [] =>
      if operands.any isEndless then Run.stall
      else do
        Run.pass (totalOf (operands.map fun word => (duration? word).getD 0))
        pure 0

def niceOptions : Options where
  alone := ""
  valued := "n"
  long := [("adjustment", 'n')]
  status := 125
  first := true

def nice (launcher : Launcher) (arguments : List String) : Run Nat := do
  let isAdjustment (word : String) : Bool :=
    match word.toList with
    | '-' :: digits => digits.headD 'x' ≠ '-' && (digits.all Char.isDigit) && digits ≠ []
    | _ => false
  let words := match arguments with
    | word :: rest => if isAdjustment word then rest else arguments
    | [] => []
  let (given, command) ← niceOptions.read words
  match given.last? 'n' with
  | some text =>
    if text.toInt?.isNone then fail 125 ("invalid adjustment " ++ Text.quotedWord text)
  | none => pure ()
  if command.isEmpty then do
    putText "0\n"
    pure 0
  else handOn launcher command plainRefusal

def passOn (launcher : Launcher) (options : Options) (arguments : List String) : Run Nat := do
  let (_, command) ← options.read arguments
  if command.isEmpty then missing options.status
  else handOn launcher command runningRefusal

def nohup (launcher : Launcher) (arguments : List String) : Run Nat := do
  modify fun state => { state with traps := (1, "") :: state.traps }
  passOn launcher (Options.nothing 125 true) arguments

def sessionOptions : Options where
  alone := "cfw"
  valued := ""
  long := [("ctty", 'c'), ("fork", 'f'), ("wait", 'w')]
  status := 1
  first := true

def setsid (launcher : Launcher) (arguments : List String) : Run Nat := do
  let (_, command) ← sessionOptions.read arguments
  if command.isEmpty then misuse 1 "no command specified"
  else do
    modify fun state => { state with group := state.identity }
    handOn launcher command ("failed to execute " ++ ·)

def bufferOptions : Options where
  alone := ""
  valued := "ioe"
  long := [("input", 'i'), ("output", 'o'), ("error", 'e')]
  status := 125
  first := true

def wordsOptions : Options where
  alone := "0oprtx"
  valued := "adEeIiLlnPs"
  long := [("null", '0'), ("no-run-if-empty", 'r'), ("max-args", 'n'), ("max-lines", 'L'),
    ("replace", 'I'), ("delimiter", 'd'), ("arg-file", 'a'), ("verbose", 't'), ("max-procs", 'P')]
  status := 1
  first := true

structure QuotedWords where
  lines : List (List String)
  unclosed : Option Char
deriving DecidableEq, Repr

def QuotedWords.behind (words : List String) (others : QuotedWords) : QuotedWords :=
  match others.lines with
  | line :: lines => { others with lines := (words ++ line) :: lines }
  | [] => { others with lines := [words] }

/-- The words of lines: blanks divide them, and quotes and backslashes keep together what is
between or behind them. `quote` is the quote that is open; it has to be closed in its line. -/
def quotedWords : Option Char → Option (List Char) → List Char → QuotedWords
  | some opening, _, [] => ⟨[], some opening⟩
  | none, begun, [] => ⟨[(begun.map (String.ofList ·.reverse)).toList], none⟩
  | quote, begun, character :: rest =>
    let finished := (begun.map (String.ofList ·.reverse)).toList
    match quote with
    | some opening =>
      if character = '\n' then ⟨[], some opening⟩
      else if character = opening then quotedWords none (some (begun.getD [])) rest
      else quotedWords quote (some (character :: begun.getD [])) rest
    | none =>
      if character = '\'' ∨ character = '"' then
        quotedWords (some character) (some (begun.getD [])) rest
      else if character = '\\' then
        match rest with
        | next :: more => quotedWords none (some (next :: begun.getD [])) more
        | [] => ⟨[finished], none⟩
      else if character = '\n' then
        let others := quotedWords none none rest
        { others with lines := finished :: others.lines }
      else if character = ' ' ∨ character = '\t' then
        (quotedWords none none rest).behind finished
      else quotedWords none (some (character :: begun.getD [])) rest

def inGroups {α : Type} (length : Nat) : Nat → List α → List (List α)
  | 0, _ => []
  | bound + 1, items =>
    if items.isEmpty then []
    else items.take length :: inGroups length bound (items.drop length)

def replaced (mark value : List Char) : Nat → List Char → List Char
  | 0, characters => characters
  | _ + 1, [] => []
  | bound + 1, character :: rest =>
    if mark ≠ [] ∧ mark.isPrefixOf (character :: rest) then
      value ++ replaced mark value bound ((character :: rest).drop mark.length)
    else character :: replaced mark value bound rest

def heed (name : String) : Finish → Run Nat
  | .status 0 => pure 0
  | .status 255 => fail 124 (name ++ ": exited with status 255; aborting")
  | .status _ => pure 123
  | .signal number => fail 125 (name ++ ": terminated by signal " ++ toString number)

def awaitRoom (limit : Nat) : Nat → List (Nat × String) → Nat → Run (List (Nat × String) × Nat)
  | 0, running, status => pure (running, status)
  | bound + 1, running, status =>
    if running.length ≤ limit then pure (running, status)
    else do
      Run.awaitEvent (.ending (running.map Prod.fst))
      let finished := (← get).finished
      match running.find? fun entry => (finished.lookup entry.1).isSome with
      | none => pure (running, status)
      | some (identity, name) => do
        let finish ← Run.ending identity
        let own ← heed name finish
        awaitRoom limit bound (running.filter (·.1 ≠ identity)) (max status own)

def runAll (launcher : Launcher) (shows : Bool) (limit : Nat) (commands : List (List String)) :
    Run Nat := do
  let mut running : List (Nat × String) := []
  let mut status := 0
  for words in commands do
    let (rest, heeded) ← awaitRoom (limit - 1) commands.length running status
    running := rest
    status := heeded
    if shows then writeText 2 (" ".intercalate words ++ "\n")
    match ← launcher.start words with
    | .ok identity => running := running ++ [(identity, words.headD "")]
    | .error fault => fail (startStatus fault) (words.headD "" ++ ": " ++ fault.wording)
  let (_, last) ← awaitRoom 0 (commands.length + 1) running status
  pure last

def xargs (launcher : Launcher) (arguments : List String) : Run Nat := do
  let (given, operands) ← wordsOptions.read arguments
  let command := if operands.isEmpty then ["echo"] else operands
  let content ← match given.last? 'a' with
    | none => take 0 none
    | some path =>
      match ← contentOf path with
      | .ok content => pure content
      | .error fault =>
          fail 1 ("Cannot open input file " ++ Text.quotedName path ++ ": " ++ fault.wording)
  let characters := Text.charactersOf content
  let mark := given.last? 'I'
  let separator := if given.has '0' then some '\x00'
    else (given.last? 'd').map fun text =>
      if text = "\\n" then '\n' else if text = "\\t" then '\t' else if text = "\\0" then '\x00'
      else text.toList.headD ' '
  let quoted := quotedWords none none characters
  let isPlain := separator.isNone && mark.isNone
  let lines : List (List String) := match separator with
    | some separator =>
      let parts := (Text.splitAt separator characters).map String.ofList
      [if parts.getLast? = some "" then parts.dropLast else parts]
    | none =>
      if mark.isSome then
        (((Text.splitAt '\n' characters).map fun line =>
          String.ofList (line.dropWhile (· = ' '))).filter (· ≠ "")).map ([·])
      else quoted.lines.filter (· ≠ [])
  let words := lines.flatten
  let number (letter : Char) : Option Nat := (given.last? letter).bind String.toNat?
  let runs : List (List String) := match mark with
    | some mark => words.map fun word =>
      command.map fun part => String.ofList
        (replaced mark.toList word.toList (part.length + 1) part.toList)
    | none =>
      let groups := match number 'n', number 'L' with
        | some count, _ => inGroups (max count 1) (words.length + 1) words
        | none, some count =>
          (inGroups (max count 1) (lines.length + 1) lines).map List.flatten
        | none, none => if words.isEmpty then [] else [words]
      (if groups.isEmpty && !given.has 'r' then [[]] else groups).map (command ++ ·)
  let unclosed := if isPlain then quoted.unclosed else none
  let complete := match unclosed, number 'n' with
    | none, _ => runs
    | some _, some count => runs.filter fun run => run.length = command.length + max count 1
    | some _, none => []
  let (null, number0) := (← get).addStream (.device .null)
  if !given.has 'a' then set (null.connect 0 number0)
  let limit := if number 'P' = some 0 then complete.length else (number 'P').getD 1
  let status ← runAll launcher (given.has 't') (max limit 1) complete
  match unclosed with
  | none => pure status
  | some quote =>
    fail 1 ("unmatched " ++ (if quote = '"' then "double" else "single")
      ++ " quote; by default quotes are special to xargs unless you use the -0 option")

end ChartManifests.Program.Utility
