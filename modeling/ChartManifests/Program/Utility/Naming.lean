import ChartManifests.Program.Printing
import ChartManifests.Program.Utility.Tree
/-!
Utilities that print little more than their arguments: parts of paths, rows of numbers, variables,
and names of the host and of whoever uses it.
-/

namespace ChartManifests.Program.Utility

def baseOptions : Options where
  alone := "az"
  valued := "s"
  long := [("multiple", 'a'), ("suffix", 's'), ("zero", 'z')]
  status := 1
  first := true

def basename (arguments : List String) : Run Nat := do
  let (given, operands) ← baseOptions.read arguments
  let ending := if given.has 'z' then "\x00" else "\n"
  match operands with
  | [] => missing 1
  | path :: rest => do
    if given.has 'a' || given.has 's' then
      for path in operands do
        putText (baseName path ((given.last? 's').getD "") ++ ending)
    else
      match rest with
      | _ :: extra :: _ => misuse 1 ("extra operand " ++ Text.quotedWord extra)
      | _ => putText (baseName path (rest.headD "") ++ ending)
    pure 0

def directoryOptions : Options where
  alone := "z"
  valued := ""
  long := [("zero", 'z')]
  status := 1
  first := false

def dirname (arguments : List String) : Run Nat := do
  let (given, operands) ← directoryOptions.read arguments
  if operands.isEmpty then missing 1
  for path in operands do
    putText (directoryName path ++ (if given.has 'z' then "\x00" else "\n"))
  pure 0

def printenv (arguments : List String) : Run Nat := do
  let (given, operands) ← (⟨"0", "", [("null", '0')], 2, true, ""⟩ : Options).read arguments
  let ending := if given.has '0' then "\x00" else "\n"
  let environment := (← get).environment
  if operands.isEmpty then do
    for (name, value) in environment do
      putText (name ++ "=" ++ value ++ ending)
    pure 0
  else
    onAll operands fun name => do
      match environment.lookup name with
      | some value => do
        putText (value ++ ending)
        pure 0
      | none => pure 1

def decimal? (text : String) : Option (Int × Nat) :=
  let (negative, body) := splitSign text.toList
  (mantissaOf 10 Char.isDigit body).bind fun (value, places, rest) =>
    let (power, left) := powerOf 'e' rest
    let scaled : Int := (value * 10 ^ power.toNat : Nat)
    if left.isEmpty then
      some (if negative then -scaled else scaled, if 0 < power then places - power.toNat
        else places + (-power).toNat)
    else none

def decimalText (places : Nat) (units : Int) : String :=
  let digits := (⟨units.natAbs, 10 ^ places⟩ : Ratio).fixedText false places
  String.ofList (if units < 0 then '-' :: digits else digits)

def widened (width : Nat) (text : String) : String :=
  let (negative, digits) := splitSign text.toList
  let zeros := List.replicate (width - text.length) '0'
  String.ofList ((if negative then ['-'] else []) ++ zeros ++ digits)

def rowOptions : Options where
  alone := "w"
  valued := "fs"
  long := [("equal-width", 'w'), ("format", 'f'), ("separator", 's')]
  status := 1
  first := true

def isNegativeNumber (word : String) : Bool :=
  match word.toList with
  | '-' :: first :: _ => first.isDigit || first = '.'
  | _ => false

def fromDirective? : List Char → Option (List Char)
  | '%' :: '%' :: rest => fromDirective? rest
  | '%' :: rest => some rest
  | _ :: rest => fromDirective? rest
  | [] => none

def formatFault? (format : String) : Option String :=
  match fromDirective? format.toList with
  | none => some "has no % directive"
  | some directive =>
    let unflagged := directive.dropWhile "'-+#0 ".toList.contains
    let behind := match unflagged.dropWhile Char.isDigit with
      | '.' :: rest => rest.dropWhile Char.isDigit
      | rest => rest
    match behind with
    | [] => some "ends in %"
    | letter :: rest =>
      if !"efgaEFGA".toList.contains letter then
        some ("has unknown %" ++ letter.toString ++ " directive")
      else if (fromDirective? rest).isSome then some "has too many % directives"
      else none

def seq (arguments : List String) : Run Nat := do
  let asked := arguments.takeWhile fun word => !isNegativeNumber word
  let (given, first) ← rowOptions.read asked
  let operands := first ++ arguments.drop asked.length
  match operands with
  | [] => missing 1
  | _ :: _ :: _ :: extra :: _ => misuse 1 ("extra operand " ++ Text.quotedWord extra)
  | _ => pure ()
  match given.last? 'f' with
  | none => pure ()
  | some format =>
    match formatFault? format with
    | some fault => fail 1 ("format " ++ Text.quotedWord format ++ " " ++ fault)
    | none =>
      if given.has 'w' then
        misuse 1 "format string may not be specified when printing equal width strings"
  let mut numbers : List (Int × Nat) := []
  for word in operands do
    match decimal? word with
    | some number => numbers := numbers ++ [number]
    | none => misuse 1 ("invalid floating point argument: " ++ Text.quotedWord word)
  let (first, step, last) := match numbers with
    | [last] => ((1, 0), (1, 0), last)
    | [first, last] => (first, (1, 0), last)
    | first :: step :: last :: _ => (first, step, last)
    | [] => ((1, 0), (1, 0), (0, 0))
  if step.1 = 0 then
    misuse 1 ("invalid Zero increment value: " ++ Text.quotedWord ((operands[1]?).getD ""))
  let shownPlaces := max first.2 step.2
  let places := max shownPlaces last.2
  let units (number : Int × Nat) : Int := number.1 * 10 ^ (places - number.2)
  let distance := if 0 < step.1 then units last - units first else units first - units last
  let count := if distance < 0 then 0 else (distance / (units step).natAbs).toNat + 1
  let shown (index : Nat) : String :=
    decimalText shownPlaces ((units first + units step * index)
      / (10 ^ (places - shownPlaces) : Nat))
  let texts := (List.range count).map shown
  let width := (texts.map String.length).foldl max 0
  let lines ← match given.last? 'f' with
    | none => pure (if given.has 'w' then texts.map (widened width) else texts)
    | some format =>
      pure (texts.map fun text =>
        Text.ofOctets (printed .standalone 0 format [text]).1)
  if !lines.isEmpty then
    putText (((given.last? 's').getD "\n").intercalate lines ++ "\n")
  pure 0

def hostOptions : Options where
  alone := "asnrvmpio"
  valued := ""
  long := [("all", 'a'), ("kernel-name", 's'), ("nodename", 'n'), ("kernel-release", 'r'),
    ("machine", 'm'), ("operating-system", 'o')]
  status := 1
  first := false

def uname (arguments : List String) : Run Nat := do
  let (given, operands) ← hostOptions.read arguments
  match operands with
  | extra :: _ => misuse 1 ("extra operand " ++ Text.quotedWord extra)
  | [] => do
    let known := [('s', "Linux"), ('n', "localhost"), ('m', "x86_64"), ('o', "GNU/Linux")]
    let wanted := known.filter fun entry => given.has entry.1 || given.has 'a'
    putText (" ".intercalate (if given.isEmpty then ["Linux"] else wanted.map Prod.snd) ++ "\n")
    pure 0

def identityOptions : Options where
  alone := "aGgnruzZ"
  valued := ""
  long := [("group", 'g'), ("groups", 'G'), ("name", 'n'), ("real", 'r'), ("user", 'u')]
  status := 1
  first := false

def identity (arguments : List String) : Run Nat := do
  let (given, operands) ← identityOptions.read arguments
  let choices := "ugG".toList.filter given.has
  let single := !choices.isEmpty
  if 1 < choices.length then fail 1 "cannot print \"only\" of more than one choice"
  if !single && (given.has 'n' || given.has 'r') then
    fail 1 "cannot print only names or real IDs in default format"
  match operands.find? fun name => name ≠ "root" && name ≠ "0" with
  | some name => fail 1 (Text.quotedWord name ++ ": no such user")
  | none => pure ()
  putText (if !single then "uid=0(root) gid=0(root) groups=0(root)\n"
    else if given.has 'n' then "root\n" else "0\n")
  pure 0

def pwd (arguments : List String) : Run Nat := do
  let options : Options :=
    ⟨"LP", "", [("logical", 'L'), ("physical", 'P')], 1, false, ""⟩
  let (_, operands) ← options.read arguments
  if !operands.isEmpty then complain "ignoring non-option arguments"
  putText ((← get).currentPath ++ "\n")
  pure 0

def plainLine (text : String) (arguments : List String) : Run Nat := do
  let (_, operands) ← (Options.nothing 1 false).read arguments
  match operands with
  | extra :: _ => misuse 1 ("extra operand " ++ Text.quotedWord extra)
  | [] => do
    putText (text ++ "\n")
    pure 0

end ChartManifests.Program.Utility
