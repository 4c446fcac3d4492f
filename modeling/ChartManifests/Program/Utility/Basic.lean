import ChartManifests.Program.Transfer
import ChartManifests.Text.NameForm
/-!
What utilities have in common: complaints in their own name, options in front of and between their
operands, and the bytes of the files that their operands name.
-/

namespace ChartManifests.Program

open Text (Bytes)

namespace Utility

def complain (text : String) : Run Unit := do
  writeText 2 ((← get).title ++ ": " ++ text ++ "\n")

def fail {α : Type} (status : Nat) (text : String) : Run α := do
  complain text
  throw (.exited status)

def hint : Run String := do
  pure ("Try '" ++ (← get).title ++ " --help' for more information.")

def misuse {α : Type} (status : Nat) (text : String) : Run α := do
  fail status (text ++ "\n" ++ (← hint))

def missing {α : Type} (status : Nat) : Run α := misuse status "missing operand"

def putText (text : String) : Run Unit := put (Text.octets text)

def onAll {α : Type} (items : List α) (step : α → Run Nat) : Run Nat := do
  let mut status := 0
  for item in items do
    let own ← step item
    status := max status own
  pure status

/-- The options that a utility knows: letters that stand alone, letters with a value, and long names
with the letter that each is short for. Where `first` is set, the first operand ends the options.
What is wrong with options is followed by a hint, unless the usage is told in other words. -/
structure Options where
  alone : String
  valued : String
  long : List (String × Char)
  status : Nat
  first : Bool
  usage : String := ""
deriving DecidableEq, Repr

def Options.nothing (status : Nat) (first : Bool) : Options where
  alone := ""
  valued := ""
  long := []
  status := status
  first := first

def Options.refuse {α : Type} (options : Options) (text : String) : Run α :=
  if options.usage = "" then misuse options.status text
  else fail options.status (text ++ "\n" ++ options.usage)

abbrev Given := List (Char × String)

def Given.has (given : Given) (letter : Char) : Bool := given.any fun entry => entry.1 = letter

def Given.last? (given : Given) (letter : Char) : Option String :=
  (given.reverse.find? fun entry => entry.1 = letter).map Prod.snd

def Given.lastOf? (given : Given) (letters : List Char) : Option Char :=
  (given.reverse.find? fun entry => letters.contains entry.1).map Prod.fst

structure Asked where
  given : Given
  awaiting : Option (Char × String)

def Options.readLetters (options : Options) : List Char → Run Asked
  | [] => pure ⟨[], none⟩
  | letter :: rest =>
    if options.valued.toList.contains letter then
      if rest.isEmpty then
        pure ⟨[], some (letter, "option requires an argument -- '" ++ letter.toString ++ "'")⟩
      else pure ⟨[(letter, String.ofList rest)], none⟩
    else if options.alone.toList.contains letter then do
      let others ← options.readLetters rest
      pure { others with given := (letter, "") :: others.given }
    else options.refuse ("invalid option -- '" ++ letter.toString ++ "'")

def Options.readName (options : Options) (text : List Char) : Run Asked := do
  let name := text.takeWhile (· ≠ '=')
  let value? := if name.length = text.length then none
    else some (String.ofList (text.drop (name.length + 1)))
  let exact := options.long.filter fun entry => entry.1.toList = name
  let close := options.long.filter fun entry => name.isPrefixOf entry.1.toList
  let found := if exact.isEmpty then close else exact
  match found with
  | [] => options.refuse ("unrecognized option '--" ++ String.ofList text ++ "'")
  | (long, letter) :: others =>
    if others.any fun entry => entry.2 ≠ letter then
      options.refuse ("option '--" ++ String.ofList text ++ "' is ambiguous; possibilities:"
        ++ String.join (found.map fun entry => " '--" ++ entry.1 ++ "'"))
    else
      match value?, options.valued.toList.contains letter with
      | none, true =>
        pure ⟨[], some (letter, "option '--" ++ long ++ "' requires an argument")⟩
      | none, false => pure ⟨[(letter, "")], none⟩
      | some value, true => pure ⟨[(letter, value)], none⟩
      | some _, false =>
        options.refuse ("option '--" ++ long ++ "' doesn't allow an argument")

def Options.readWord (options : Options) (word : String) : Run (Option Asked) := do
  match word.toList with
  | '-' :: '-' :: name => do pure (some (← options.readName name))
  | '-' :: letter :: letters => do pure (some (← options.readLetters (letter :: letters)))
  | _ => pure none

def Options.read (options : Options) : List String → Run (Given × List String)
  | [] => pure ([], [])
  | word :: rest =>
    if word = "--" then pure ([], rest)
    else do
      match ← options.readWord word with
      | none =>
        if options.first then pure ([], word :: rest)
        else do
          let (given, operands) ← options.read rest
          pure (given, word :: operands)
      | some asked =>
        match asked.awaiting with
        | none => do
          let (given, operands) ← options.read rest
          pure (asked.given ++ given, operands)
        | some (letter, complaint) =>
          match rest with
          | [] => options.refuse complaint
          | value :: more => do
            let (given, operands) ← options.read more
            pure (asked.given ++ [(letter, value)] ++ given, operands)

def spareDescriptor : Nat := 1024

def contentUpTo (count : Option Nat) (path : String) : Run (Except FileFault Bytes) := do
  if path = "-" then takeBytes 0 count
  else
    let state ← get
    match state.files.find state.current path with
    | .error fault => pure (.error fault)
    | .ok (_, .file content) => pure (.ok ((count.map content.take).getD content))
    | .ok _ => do
      match ← openPath .reading path with
      | .error fault => pure (.error fault)
      | .ok number => do
        modify fun state => state.connect spareDescriptor number
        let content ← takeBytes spareDescriptor count
        modify fun state => state.disconnect spareDescriptor
        pure content

def takeInput : Run Bytes := do
  match ← takeBytes 0 none with
  | .ok content => pure content
  | .error fault => fail 1 ("read error: " ++ fault.wording)

def contentOf (path : String) : Run (Except FileFault Bytes) := contentUpTo none path

/-- Opens what an operand names for reading; a dash is what comes in. The descriptor is closed when
the action is done. -/
def withOperand {α : Type} (path : String) (action : Nat → Run α) : Run (Except FileFault α) := do
  if path = "-" then do pure (.ok (← action 0))
  else
    match ← openPath .reading path with
    | .error fault => pure (.error fault)
    | .ok number => do
      modify fun state => state.connect spareDescriptor number
      let result ← action spareDescriptor
      modify fun state => state.disconnect spareDescriptor
      pure (.ok result)

def blockSize : Nat := 131072

/-- Does something with what comes in, piece by piece, as long as there is more; tells what kept it
from reading on. -/
def onPieces (descriptor : Nat) (step : Bytes → Run Unit) : Nat → Run (Option FileFault)
  | 0 => pure none
  | bound + 1 => do
    match ← receive descriptor blockSize with
    | .error fault => pure (some fault)
    | .ok [] => pure none
    | .ok piece => do
      step piece
      onPieces descriptor step bound

def isOverheard : Run Bool := do
  match (← get).stream? 1 with
  | some (.sink _) => pure true
  | _ => pure false

def passOnFrom (descriptor : Nat) : Run (Option FileFault) := do
  if (← isEndless descriptor) && !(← isOverheard) then Run.stall
  else onPieces descriptor put longestGathering

def operandName (path : String) : String := if path = "-" then "standard input" else path

def onEach (operands : List String) (complaint : String → FileFault → String)
    (step : String → Bytes → Run Unit) : Run Nat :=
  onAll (if operands.isEmpty then ["-"] else operands) fun path => do
    match ← contentOf path with
    | .ok content => do
      step path content
      pure 0
    | .error fault => do
      complain (complaint path fault)
      pure 1

def plainComplaint (path : String) (fault : FileFault) : String :=
  Text.shownName path ++ ": " ++ fault.wording

def openingComplaint (path : String) (fault : FileFault) : String :=
  if fault = .isDirectory || path = "-" then
    "error reading " ++ Text.quotedName (operandName path) ++ ": " ++ fault.wording
  else "cannot open " ++ Text.quotedName path ++ " for reading: " ++ fault.wording

def linesOf : Bytes → List Bytes
  | [] => []
  | byte :: rest =>
    if byte = 10 then [10] :: linesOf rest
    else
      match linesOf rest with
      | line :: lines => (byte :: line) :: lines
      | [] => [[byte]]

def withoutEnd (line : Bytes) : Bytes := if line.getLast? = some 10 then line.dropLast else line

def bareLines (content : Bytes) : List Bytes := (linesOf content).map withoutEnd

def ofLines (lines : List Bytes) : Bytes := lines.flatMap fun line => line ++ [10]

def isBlankByte (byte : UInt8) : Bool := byte = 32 || byte = 9

def alignedNumber (width number : Nat) : String :=
  let digits := toString number
  String.ofList (List.replicate (width - digits.length) ' ') ++ digits

def unit? (text : String) : Option Nat :=
  match text with
  | "" | "c" => some 1
  | "b" => some 512
  | "k" | "K" | "KiB" => some 1024
  | "kB" | "KB" => some 1000
  | "M" | "MiB" => some (1024 ^ 2)
  | "MB" => some (1000 ^ 2)
  | "G" | "GiB" => some (1024 ^ 3)
  | "GB" => some (1000 ^ 3)
  | _ => none

def sized? (text : String) : Option Nat :=
  let digits := text.toList.takeWhile Char.isDigit
  if digits.isEmpty then none
  else
    (unit? (String.ofList (text.toList.drop digits.length))).map fun factor =>
      (String.ofList digits).toNat?.getD 0 * factor

end Utility

end ChartManifests.Program
