import ChartManifests.Program.Builtin.Reading
import ChartManifests.Program.Rich.Basic
/-!
Reading in the rich shell: a line, or a part of one, into parameters or a list, and all lines into a
list.
-/

namespace ChartManifests.Program.Rich

open Text (Bytes)

/-- How something is read: whether backslashes are text, what ends a line, how much is read at most,
whether that much is read whatever comes, when time is over, and where it comes from. -/
structure Manner where
  raw : Bool
  delimiter : UInt8
  count : Option Nat
  exact : Bool
  deadline : Option Nat
  descriptor : Nat

inductive ReadEnd
  | delimiter
  | enough
  | finished
  | late
deriving DecidableEq, Repr

def isLate (manner : Manner) : Run Bool := do
  match manner.deadline, (← get).stream? manner.descriptor with
  | some deadline, some (.source channel) => do
    Run.await ⟨.bytes channel, some deadline, false⟩
    let state ← get
    pure (((state.channels[channel]?).getD []).isEmpty && deadline ≤ state.clock)
  | _, _ => pure false

def readMarks (manner : Manner) : Nat → Nat → Bool → Run (List Shell.Mark × ReadEnd)
  | 0, _, _ => pure ([], .finished)
  | bound + 1, taken, escaped => do
    if manner.count = some taken then pure ([], .enough)
    else if ← isLate manner then pure ([], .late)
    else
      match ← receive manner.descriptor 1 with
      | .ok (byte :: _) =>
        let character := Char.ofNat byte.toNat
        if escaped then do
          if byte = 10 then readMarks manner bound taken false
          else do
            let (marks, ending) ← readMarks manner bound (taken + 1) false
            pure ((character, true) :: marks, ending)
        else if byte = manner.delimiter && !manner.exact then pure ([], .delimiter)
        else if byte = 92 && !manner.raw then readMarks manner bound taken true
        else if byte = 0 then readMarks manner bound taken false
        else do
          let (marks, ending) ← readMarks manner bound (taken + 1) false
          pure ((character, false) :: marks, ending)
      | _ => pure ([], .finished)

def readManner (manner : Manner) : Run (List Shell.Mark × ReadEnd) := do
  if manner.raw && manner.delimiter = 10 && manner.count.isNone && manner.deadline.isNone then do
    let (bytes, ended) := match ← takeLine manner.descriptor with
      | .ok line => line
      | .error _ => ([], false)
    let characters := (Text.charactersOf bytes).filter (· ≠ '\x00')
    pure (characters.map fun character => (character, false),
      if ended then .delimiter else .finished)
  else readMarks manner (10 ^ 9) 0 false

def duration? (word : String) : Option Nat :=
  match mantissaOf 10 Char.isDigit word.toList with
  | some (value, places, []) => some (value * 1000000 / 10 ^ places)
  | _ => none

def allFields (separators : List Char) (marks : List Shell.Mark) : List String :=
  Builtin.lineFields separators (marks.length + 1) marks

def checkNames (name : String) : List String → Deed Unit
  | [] => pure ()
  | word :: rest =>
    if isParameterName (Calculation.placeOf word none).name then checkNames name rest
    else quit name ("`" ++ word ++ "': not a valid identifier") 1

def read (arguments : List String) : Deed Nat := do
  let (given, names) ← options "read" ['e', 'r', 's'] "adinNptu".toList arguments
  let value? (letter : Char) : Option String := (given.reverse.find? (·.1 = letter)).map Prod.snd
  let number? (letter : Char) (text : String) : Deed (Option Nat) :=
    match value? letter with
    | none => pure none
    | some word =>
      match integer? word with
      | some number =>
        if number < 0 then quit "read" (word ++ ": " ++ text) 1 else pure (some number.toNat)
      | none => quit "read" (word ++ ": " ++ text) 1
  checkNames "read" names
  let descriptor := (← number? 'u' "invalid file descriptor specification").getD 0
  let some_ ← number? 'n' "invalid number"
  let exactly ← number? 'N' "invalid number"
  let state ← get
  if (state.streamNumber? descriptor).isNone && (value? 'u').isSome then
    quit "read" (toString descriptor ++ ": invalid file descriptor: Bad file descriptor") 1
  else do
    let deadline ← match value? 't' with
      | none => pure none
      | some word =>
        match duration? word with
        | some duration => pure (some (state.clock + duration))
        | none => quit "read" (word ++ ": invalid timeout specification") 1
    let delimiter := match (value? 'd').map String.toList with
      | some (first :: _) => UInt8.ofNat first.toNat
      | some [] => 0
      | none => 10
    let manner : Manner := ⟨given.any (·.1 = 'r'), delimiter, exactly.or some_, exactly.isSome,
      deadline, descriptor⟩
    let (marks, ending) ← readManner manner
    let separators := separators (← get)
    match value? 'a' with
    | some list =>
      match assignList (← get) list false
        ((allFields separators marks).map fun field => ⟨none, false, field⟩) with
      | .ok after => set after
      | .error fault => quit "read" fault.message 1
    | none =>
      if names.isEmpty then assign "read" "REPLY" (fieldText marks)
      else do
        let fields := if exactly.isSome then [fieldText marks]
          else Builtin.lineFields separators names.length marks
        for (name, index) in names.zipIdx do
          assign "read" name ((fields[index]?).getD "")
    pure (match ending with
      | .delimiter | .enough => 0
      | .finished => 1
      | .late => 142)

def piecesOf (delimiter : UInt8) : Bytes → List Bytes
  | [] => []
  | byte :: rest =>
    if byte = delimiter then [byte] :: piecesOf delimiter rest
    else
      match piecesOf delimiter rest with
      | first :: others => (byte :: first) :: others
      | [] => [[byte]]

def readLines (name : String) (arguments : List String) : Deed Nat := do
  let (given, names) ← options name ['t'] "dnOsuCc".toList arguments
  let value? (letter : Char) : Option String := (given.reverse.find? (·.1 = letter)).map Prod.snd
  let number (letter : Char) (usual : Nat) (text : String) : Deed Nat :=
    match value? letter with
    | none => pure usual
    | some word =>
      match integer? word with
      | some number =>
        if number < 0 then quit name (word ++ ": " ++ text) 1 else pure number.toNat
      | none => quit name (word ++ ": " ++ text) 1
  checkNames name names
  let descriptor ← number 'u' 0 "invalid file descriptor specification"
  let most ← number 'n' 0 "invalid line count"
  let skipped ← number 's' 0 "invalid line count"
  let origin ← number 'O' 0 "invalid array origin"
  let state ← get
  if (state.streamNumber? descriptor).isNone then
    quit name (toString descriptor ++ ": invalid file descriptor: Bad file descriptor") 1
  else do
    let delimiter := match (value? 'd').map String.toList with
      | some (first :: _) => UInt8.ofNat first.toNat
      | some [] => 0
      | none => 10
    let content ← take descriptor none
    let pieces := (piecesOf delimiter content).drop skipped
    let kept := if most = 0 then pieces else pieces.take most
    let text (piece : Bytes) : String :=
      let shown := if given.any (·.1 = 't') && piece.getLast? = some delimiter then piece.dropLast
        else piece
      Text.ofOctets (shown.filter (· ≠ 0))
    let list := (names.head?).getD "MAPFILE"
    let appends := given.any (·.1 = 'O')
    match assignList (← get) list appends (kept.zipIdx.map fun (piece, index) =>
      ⟨some (toString (origin + index)), false, text piece⟩) with
    | .ok after => do
      set after
      pure 0
    | .error fault => quit name fault.message 1

end ChartManifests.Program.Rich
