import ChartManifests.Text.Expression.Reader
/-!
Scripts that edit lines. A script is a row of commands, each for lines that its scope tells; groups
of commands are a row like the others, between a command that opens and one that closes.
-/

namespace ChartManifests.Program.Editing

open Text (Expression)

structure LinePattern where
  expression : Option Expression
  folds : Bool
deriving Repr

inductive Address
  | line (number : Nat)
  | every (first step : Nat)
  | last
  | pattern (pattern : LinePattern)
deriving Repr

inductive RangeEnd
  | address (address : Address)
  | after (count : Nat)
  | multiple (count : Nat)
deriving Repr

structure Scope where
  first : Option Address
  finish : Option RangeEnd
  negated : Bool
deriving Repr

inductive ReplacementPart
  | text (characters : List Char)
  | held (number : Nat)
  | case (letter : Char)
deriving DecidableEq, Repr

structure Substitution where
  pattern : LinePattern
  parts : List ReplacementPart
  number : Nat
  all : Bool
  prints : Bool
  target : Option String
deriving Repr

inductive Placing
  | before
  | behind
  | instead
deriving DecidableEq, Repr

inductive Branching
  | always
  | replaced
  | unreplaced
deriving DecidableEq, Repr

inductive Action
  | opening
  | closing
  | label (name : String)
  | branch (kind : Branching) (label : String)
  | substitute (substitution : Substitution)
  | exchange (pairs : List (Char × Char))
  | text (placing : Placing) (characters : List Char)
  | delete
  | deleteFirst
  | print
  | printFirst
  | next
  | join
  | hold (appends : Bool)
  | fetch (appends : Bool)
  | swap
  | empty
  | number
  | spell
  | name
  | quit (prints : Bool) (status : Nat)
  | read (path : String)
  | readLine (path : String)
  | write (path : String) (first : Bool)
deriving Repr

structure Command where
  scope : Scope
  action : Action
deriving Repr

structure ScriptFault where
  text : String
  left : Nat
deriving DecidableEq, Repr

abbrev Reads := Except ScriptFault

def refuse {α : Type} (text : String) (rest : List Char) : Reads α :=
  .error ⟨text, rest.length⟩

def isSpace (character : Char) : Bool := character = ' ' || character = '\t'

def skipSpaces (characters : List Char) : List Char := characters.dropWhile isSpace

def numberOf (digits : List Char) : Nat := (String.ofList digits).toNat?.getD 0

inductive SetPlace
  | outside
  | start
  | inside
deriving DecidableEq, Repr

/-- The text up to a delimiter, with the escapes that it has. Where `sets` is set, a delimiter in a
set of characters is none. -/
def delimited (sets : Bool) (delimiter : Char) :
    SetPlace → List Char → Option (List Char × List Char)
  | _, [] => none
  | .outside, '\\' :: character :: rest =>
    (delimited sets delimiter .outside rest).map fun (text, after) =>
      (if character = delimiter then (delimiter :: text, after)
        else ('\\' :: character :: text, after))
  | place, character :: rest =>
    if place = .outside && character = delimiter then some ([], rest)
    else
      let next : SetPlace := match place, character with
        | .outside, '[' => if sets then .start else .outside
        | .outside, _ => .outside
        | .start, '^' => .start
        | .start, _ => .inside
        | .inside, ']' => .outside
        | .inside, _ => .inside
      let again : SetPlace := if place = .inside && character = '[' then .start else next
      (delimited sets delimiter again rest).map fun (text, after) => (character :: text, after)

def plainEscape? (character : Char) : Option Char :=
  match character with
  | 'n' => some '\n'
  | 't' => some '\t'
  | 'f' => some '\x0c'
  | 'v' => some '\x0b'
  | 'a' => some '\x07'
  | 'r' => some '\r'
  | _ => none

def withEscapes : List Char → List Char
  | '\\' :: character :: rest =>
    match plainEscape? character with
    | some plain => plain :: withEscapes rest
    | none => '\\' :: character :: withEscapes rest
  | character :: rest => character :: withEscapes rest
  | [] => []

def linePattern (extended folds : Bool) (text rest : List Char) :
    Reads (LinePattern × Nat) :=
  if text.isEmpty then .ok (⟨none, folds⟩, 9)
  else
    match Expression.read (if extended then .strict true else .basic) (withEscapes text) with
    | .ok (expression, groups) => .ok (⟨some expression, folds⟩, groups)
    | .error fault => refuse fault.message rest

def readAddress (extended : Bool) (characters : List Char) :
    Reads (Option Address × List Char) := do
  let pattern (delimiter : Char) (body : List Char) : Reads (Option Address × List Char) := do
    match delimited true delimiter .outside body with
    | none => refuse "unterminated address regex" []
    | some (text, rest) =>
      let flags := rest.takeWhile fun flag => flag = 'I' || flag = 'M'
      let left := rest.drop flags.length
      let (found, _) ← linePattern extended (flags.contains 'I') text left
      .ok (some (.pattern found), left)
  match characters with
  | '$' :: rest => .ok (some .last, rest)
  | '/' :: rest => pattern '/' rest
  | '\\' :: delimiter :: rest => pattern delimiter rest
  | _ =>
    let digits := characters.takeWhile Char.isDigit
    if digits.isEmpty then .ok (none, characters)
    else
      match characters.drop digits.length with
      | '~' :: rest =>
        let step := rest.takeWhile Char.isDigit
        .ok (some (.every (numberOf digits) (numberOf step)), rest.drop step.length)
      | rest => .ok (some (.line (numberOf digits)), rest)

def readRangeEnd (extended : Bool) (characters : List Char) : Reads (RangeEnd × List Char) := do
  let counted (make : Nat → RangeEnd) (rest : List Char) : Reads (RangeEnd × List Char) :=
    let digits := rest.takeWhile Char.isDigit
    .ok (make (numberOf digits), rest.drop digits.length)
  match characters with
  | '+' :: rest => counted .after rest
  | '~' :: rest => counted .multiple rest
  | _ =>
    match ← readAddress extended characters with
    | (some address, rest) => .ok (.address address, rest)
    | (none, rest) => refuse "unexpected `,'" rest

def readScope (extended : Bool) (characters : List Char) : Reads (Scope × List Char) := do
  let (first, behind) ← readAddress extended characters
  let afterFirst := if first.isSome then skipSpaces behind else behind
  let (finish, rest) ← match first, afterFirst with
    | some _, ',' :: more => do
      let (finish, rest) ← readRangeEnd extended (skipSpaces more)
      .ok (some finish, rest)
    | _, _ => .ok (none, afterFirst)
  let isZero := match first with
    | some (.line 0) => true
    | _ => false
  let endsByPattern := match finish with
    | some (.address (.pattern _)) => true
    | _ => false
  let here := skipSpaces rest
  if isZero && !endsByPattern then refuse "invalid usage of line address 0" (here.drop 1)
  else
    match here with
    | '!' :: more =>
      match skipSpaces more with
      | '!' :: others => refuse "multiple `!'s" others
      | others => .ok (⟨first, finish, true⟩, others)
    | _ => .ok (⟨first, finish, false⟩, here)

def replacementParts : List Char → List ReplacementPart
  | [] => []
  | '&' :: rest => .held 0 :: replacementParts rest
  | '\\' :: character :: rest =>
    let part : ReplacementPart :=
      if character.isDigit then .held (character.toNat - '0'.toNat)
      else if "LUluE".toList.contains character then .case character
      else .text [(plainEscape? character).getD character]
    part :: replacementParts rest
  | character :: rest => .text [character] :: replacementParts rest

structure SubstitutionFlags where
  number : Nat
  all : Bool
  prints : Bool
  folds : Bool
  target : Option String

def readFlags (flags : SubstitutionFlags) : List Char → Reads (SubstitutionFlags × List Char)
  | [] => .ok (flags, [])
  | flag :: rest =>
    match flag with
    | 'g' => readFlags { flags with all := true } rest
    | 'p' => readFlags { flags with prints := true } rest
    | 'i' | 'I' => readFlags { flags with folds := true } rest
    | 'm' | 'M' => readFlags flags rest
    | 'w' =>
      let path := skipSpaces rest
      let name := path.takeWhile (· ≠ '\n')
      .ok ({ flags with target := some (String.ofList name) }, path.drop name.length)
    | _ =>
      if flag.isDigit then
        readFlags { flags with number := flags.number * 10 + (flag.toNat - '0'.toNat) } rest
      else if [';', '\n', '#', '\x7d', ' ', '\t', '\r'].contains flag then .ok (flags, flag :: rest)
      else refuse "unknown option to `s'" rest

def readSubstitution (extended : Bool) (characters : List Char) : Reads (Action × List Char) := do
  let unterminated : Reads (Action × List Char) := refuse "unterminated `s' command" []
  match characters with
  | [] => unterminated
  | delimiter :: body =>
    match delimited true delimiter .outside body with
    | none => unterminated
    | some (pattern, behind) =>
      match delimited false delimiter .outside behind with
      | none => unterminated
      | some (replacement, afterwards) => do
        let (flags, rest) ← readFlags ⟨0, false, false, false, none⟩ afterwards
        let (found, groups) ← linePattern extended flags.folds pattern rest
        let parts := replacementParts replacement
        let beyond := parts.findSome? fun part => match part with
          | .held number => if groups < number then some number else none
          | _ => none
        match beyond with
        | some number =>
          refuse ("invalid reference \\" ++ toString number ++ " on `s' command's RHS") rest
        | none =>
          if flags.number = 0 ∧ (afterwards.takeWhile Char.isDigit) ≠ [] then
            refuse "number option to `s' command may not be zero" rest
          else
            .ok (.substitute ⟨found, parts, max flags.number 1, flags.all, flags.prints,
              flags.target⟩, rest)

def exchanged : List Char → List Char
  | '\\' :: '\\' :: rest => '\\' :: exchanged rest
  | '\\' :: character :: rest =>
    match plainEscape? character with
    | some plain => plain :: exchanged rest
    | none => '\\' :: character :: exchanged rest
  | character :: rest => character :: exchanged rest
  | [] => []

def readExchange (characters : List Char) : Reads (Action × List Char) := do
  let unterminated : Reads (Action × List Char) := refuse "unterminated `y' command" []
  match characters with
  | [] => unterminated
  | delimiter :: body =>
    match delimited false delimiter .outside body with
    | none => unterminated
    | some (sources, behind) =>
      match delimited false delimiter .outside behind with
      | none => unterminated
      | some (targets, rest) =>
        let lefts := exchanged sources
        let rights := exchanged targets
        if lefts.length ≠ rights.length then
          refuse "strings for `y' command are different lengths" rest
        else .ok (.exchange (lefts.zip rights), rest)

def commandText : List Char → List Char × List Char
  | [] => ([], [])
  | '\n' :: rest => ([], rest)
  | '\\' :: character :: rest =>
    let (text, after) := commandText rest
    (character :: text, after)
  | character :: rest =>
    let (text, after) := commandText rest
    (character :: text, after)

def readText (placing : Placing) (characters : List Char) : Reads (Action × List Char) := do
  let body := skipSpaces characters
  let (text, rest) ← match body with
    | [] => refuse "expected \\ after `a', `c' or `i'" body
    | '\\' :: more =>
      match skipSpaces more with
      | '\n' :: lines => .ok (commandText lines)
      | _ => .ok (commandText more)
    | _ => .ok (commandText body)
  .ok (.text placing (if text.isEmpty && rest.isEmpty then [] else text ++ ['\n']), rest)

def readPath (make : String → Action) (characters : List Char) : Reads (Action × List Char) :=
  let body := skipSpaces characters
  let name := body.takeWhile (· ≠ '\n')
  if name.isEmpty then refuse "missing filename in r/R/w/W commands" body
  else .ok (make (String.ofList name), body.drop name.length)

def readLabel (characters : List Char) : String × List Char :=
  let body := skipSpaces characters
  let name := body.takeWhile fun character =>
    !isSpace character && character ≠ ';' && character ≠ '\n'
  (String.ofList name, body.drop name.length)

def readEnd (characters : List Char) : Reads (List Char) :=
  match skipSpaces characters with
  | [] => .ok []
  | ';' :: rest | '\n' :: rest => .ok rest
  | '#' :: rest => .ok ('#' :: rest)
  | '\x7d' :: rest => .ok ('\x7d' :: rest)
  | _ :: rest => refuse "extra characters after command" rest

def readAction (extended : Bool) (letter : Char) (rest : List Char) :
    Reads (Action × List Char) := do
  let plain (action : Action) : Reads (Action × List Char) := do .ok (action, ← readEnd rest)
  let quitting (prints : Bool) : Reads (Action × List Char) := do
    let body := skipSpaces rest
    let digits := body.takeWhile Char.isDigit
    .ok (.quit prints (numberOf digits), ← readEnd (body.drop digits.length))
  let branching (kind : Branching) : Reads (Action × List Char) := do
    let (name, behind) := readLabel rest
    .ok (.branch kind name, ← readEnd behind)
  match letter with
  | '\x7b' => .ok (.opening, rest)
  | '\x7d' => plain .closing
  | ':' =>
    let (name, behind) := readLabel rest
    if name = "" then refuse "\":\" lacks a label" behind
    else .ok (.label name, ← readEnd behind)
  | 's' => do
    let (action, behind) ← readSubstitution extended rest
    .ok (action, ← readEnd behind)
  | 'y' => do
    let (action, behind) ← readExchange rest
    .ok (action, ← readEnd behind)
  | 'a' => readText .behind rest
  | 'i' => readText .before rest
  | 'c' => readText .instead rest
  | 'b' => branching .always
  | 't' => branching .replaced
  | 'T' => branching .unreplaced
  | 'd' => plain .delete
  | 'D' => plain .deleteFirst
  | 'p' => plain .print
  | 'P' => plain .printFirst
  | 'n' => plain .next
  | 'N' => plain .join
  | 'h' => plain (.hold false)
  | 'H' => plain (.hold true)
  | 'g' => plain (.fetch false)
  | 'G' => plain (.fetch true)
  | 'x' => plain .swap
  | 'z' => plain .empty
  | '=' => plain .number
  | 'l' => plain .spell
  | 'F' => plain .name
  | 'q' => quitting true
  | 'Q' => quitting false
  | 'r' => readPath .read rest
  | 'R' => readPath .readLine rest
  | 'w' => readPath (Action.write · false) rest
  | 'W' => readPath (Action.write · true) rest
  | 'v' => .ok (.label "", rest.dropWhile (· ≠ '\n'))
  | _ => refuse ("unknown command: `" ++ letter.toString ++ "'") rest

def readCommands (extended : Bool) (whole : Nat) :
    Nat → Nat → List Char → Reads (List Command)
  | 0, _, _ => .ok []
  | bound + 1, depth, characters =>
    match characters.dropWhile fun character => character.isWhitespace || character = ';' with
    | [] => if depth = 0 then .ok [] else .error ⟨"unmatched `\x7b'", whole⟩
    | '#' :: rest => readCommands extended whole bound depth (rest.dropWhile (· ≠ '\n'))
    | here => do
      let (scope, behind) ← readScope extended here
      match behind with
      | [] => refuse "missing command" []
      | letter :: rest =>
        if letter = '\x7d' && depth = 0 then refuse "unexpected `\x7d'" rest
        else if letter = '\x7d' && scope.first.isSome then
          refuse "\x7d doesn't want any addresses" rest
        else do
          let (action, after) ← readAction extended letter rest
          let inner := match action with
            | .opening => depth + 1
            | .closing => depth - 1
            | _ => depth
          let others ← readCommands extended whole bound inner after
          .ok (⟨scope, action⟩ :: others)

def readScript (extended : Bool) (text : List Char) : Except (String × Nat) (List Command) :=
  match readCommands extended text.length (text.length + 1) 0 text with
  | .ok commands => .ok commands
  | .error fault => .error (fault.text, text.length - fault.left)

end ChartManifests.Program.Editing
