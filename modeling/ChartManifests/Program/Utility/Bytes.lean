import ChartManifests.Program.Escape
import ChartManifests.Program.Utility.Basic
import ChartManifests.Text.Base64
import ChartManifests.Text.CharacterClass
/-!
Utilities that look at bytes: one that puts some in the place of others, one that copies blocks of
them, and some that show them as numbers or as text.
-/

namespace ChartManifests.Program.Utility

open Text (Bytes)

/-- A member of a list of bytes: bytes in a row, a class, or a byte again and again; without a count
that is as often as it takes. -/
inductive ByteItem
  | bytes (values : Bytes)
  | classOf (name : String)
  | again (value : UInt8) (count : Option Nat)
deriving DecidableEq, Repr

def byteAt (characters : List Char) : UInt8 × List Char :=
  match characters with
  | '\\' :: more =>
    match escape .standalone more with
    | some (bytes, rest) => (bytes.headD 0, rest)
    | none =>
      match more with
      | character :: rest => ((bytesOf [character]).headD 92, rest)
      | [] => (92, [])
  | character :: rest => ((bytesOf [character]).headD 0, rest)
  | [] => (0, [])

def timesOf (digits : List Char) : Option Nat :=
  if digits.head? = some '0' then some (octalValue digits) else (String.ofList digits).toNat?

def byteItems : Nat → List Char → Run (List ByteItem)
  | 0, _ => pure []
  | _ + 1, [] => pure []
  | bound + 1, characters => do
    let named? : Option (String × List Char) := match characters with
      | '[' :: ':' :: rest =>
        let name := rest.takeWhile (· ≠ ':')
        if (rest.drop name.length).take 2 = [':', ']'] then
          some (String.ofList name, rest.drop (name.length + 2))
        else none
      | _ => none
    match named?, characters with
    | some (name, rest), _ =>
      if Text.classNames.contains name then do
        pure (.classOf name :: (← byteItems bound rest))
      else fail 1 ("invalid character class " ++ Text.quotedWord name)
    | none, '[' :: '=' :: member :: '=' :: ']' :: rest => do
      pure (.bytes (bytesOf [member]) :: (← byteItems bound rest))
    | none, _ => do
      let (first, behind) := byteAt (if characters.head? = some '[' then characters.drop 1
        else characters)
      let digits := (behind.drop 1).takeWhile Char.isDigit
      let repeats := characters.head? = some '[' && behind.head? = some '*'
        && (behind.drop (digits.length + 1)).head? = some ']'
      if repeats then do
        let count := if digits.isEmpty || timesOf digits = some 0 then none else timesOf digits
        pure (.again first count :: (← byteItems bound (behind.drop (digits.length + 2))))
      else
        let (low, rest) := byteAt characters
        match rest with
        | '-' :: high :: more => do
          let (top, last) := byteAt (high :: more)
          if top < low then
            let spelled := characters.take (characters.length - last.length)
            fail 1 ("range-endpoints of " ++ Text.quotedWord (String.ofList spelled)
              ++ " are in reverse collating sequence order")
          else
            let row := (List.range (top.toNat + 1 - low.toNat)).map fun offset =>
              UInt8.ofNat (low.toNat + offset)
            pure (.bytes row :: (← byteItems bound last))
        | _ =>
          let bytes := if low < 128 then [low] else bytesOf (characters.take 1)
          pure (.bytes bytes :: (← byteItems bound rest))

def bytesInClass (name : String) : Bytes :=
  ((List.range 256).filter fun code => Text.isInClass name (Char.ofNat code)).map UInt8.ofNat

def spelledBytes (length : Nat) (items : List ByteItem) : Bytes :=
  let known := totalOf (items.map fun item => match item with
    | .bytes values => values.length
    | .classOf name => (bytesInClass name).length
    | .again _ count => count.getD 0)
  items.flatMap fun item => match item with
    | .bytes values => values
    | .classOf name => bytesInClass name
    | .again value count => List.replicate (count.getD (length - known)) value

def squeeze (isIn : UInt8 → Bool) : Option UInt8 → Bytes → Bytes
  | _, [] => []
  | before, byte :: rest =>
    if before = some byte && isIn byte then squeeze isIn before rest
    else byte :: squeeze isIn (some byte) rest

def exchangeOptions : Options where
  alone := "cCdst"
  valued := ""
  long := [("complement", 'c'), ("delete", 'd'), ("squeeze-repeats", 's'), ("truncate-set1", 't')]
  status := 1
  first := true

def checkExchange (deletes squeezes : Bool) (operands : List String) : Run Unit := do
  let low := if deletes = squeezes then 2 else 1
  let high := if deletes && !squeezes then 1 else 2
  let explain {α : Type} (text sentence : String) : Run α := do
    fail 1 (text ++ (if sentence = "" then "" else "\n" ++ sentence) ++ "\n" ++ (← hint))
  if operands.isEmpty then missing 1
  else if operands.length < low then
    explain ("missing operand after " ++ Text.quotedWord (operands.getLast?.getD ""))
      (if squeezes then "Two strings must be given when both deleting and squeezing repeats."
        else "Two strings must be given when translating.")
  else if high < operands.length then
    explain ("extra operand " ++ Text.quotedWord ((operands[high]?).getD ""))
      (if operands.length = 2 then
        "Only one string may be given when deleting without squeezing repeats." else "")

def tr (arguments : List String) : Run Nat := do
  let (given, operands) ← exchangeOptions.read arguments
  let deletes := given.has 'd'
  let squeezes := given.has 's'
  checkExchange deletes squeezes operands
  let itemsOf (text : String) : Run (List ByteItem) := byteItems (text.length + 1) text.toList
  let firstItems ← itemsOf (operands.headD "")
  let secondItems ← itemsOf ((operands.drop 1).headD "")
  let complement := given.has 'c' || given.has 'C'
  let listed := spelledBytes 0 firstItems
  let first := if complement then
      ((List.range 256).map UInt8.ofNat).filter fun byte => !listed.contains byte
    else listed
  let second := spelledBytes first.length secondItems
  let exchanges := !deletes && operands.length = 2
  if exchanges && second.isEmpty && !given.has 't' then
    fail 1 "when not truncating set1, string2 must be non-empty"
  if exchanges && !complement && (secondItems.any fun item => match item with
      | .classOf name => !(name = "upper" || name = "lower") ||
        !(firstItems.any fun item => item = .classOf "upper" || item = .classOf "lower")
      | _ => false) then
    fail 1 "misaligned [:upper:] and/or [:lower:] construct"
  let sources := if given.has 't' then first.take second.length else first
  let everyByte := (List.range 256).map UInt8.ofNat
  let exchanged := ((sources.zip (second ++ List.replicate sources.length
      (second.getLast?.getD 0))).foldl
    (fun table (entry : UInt8 × UInt8) => table.setIfInBounds entry.1.toNat entry.2)
    everyByte.toArray)
  let among (bytes : Bytes) : Array Bool := (everyByte.map bytes.contains).toArray
  let isIn (table : Array Bool) (byte : UInt8) : Bool := table[byte.toNat]? = some true
  let deleted := among first
  let content ← takeInput
  let changed :=
    if deletes then content.filter fun byte => !isIn deleted byte
    else if exchanges then content.map fun byte => (exchanged[byte.toNat]?).getD byte
    else content
  let last := among (if operands.length = 2 then second else first)
  put (if squeezes then squeeze (isIn last) none changed else changed)
  pure 0

def operand? (key : String) (arguments : List String) : Option String :=
  (arguments.reverse.find? fun word => (key ++ "=").toList.isPrefixOf word.toList).map fun word =>
    String.ofList (word.toList.drop (key.length + 1))

def copyKeys : List String :=
  ["bs", "cbs", "conv", "count", "ibs", "if", "iflag", "obs", "of", "oflag", "seek", "skip",
    "status"]

def sizeOperand (key : String) (arguments : List String) : Run (Option Nat) := do
  match operand? key arguments with
  | none => pure none
  | some text =>
    match sized? text with
    | some size => pure (some size)
    | none => fail 1 ("invalid number: " ++ Text.quotedWord text)

def dd (arguments : List String) : Run Nat := do
  for word in arguments do
    if !copyKeys.any fun key => (key ++ "=").toList.isPrefixOf word.toList then
      misuse 1 ("unrecognized operand " ++ Text.quotedWord word)
  let inward ← sizeOperand "ibs" arguments
  let size := ((← sizeOperand "bs" arguments).or inward).getD 512
  let skipped := (← sizeOperand "skip" arguments).getD 0 * size
  let total := (← sizeOperand "count" arguments).map (· * size)
  let seen := (← sizeOperand "seek" arguments).getD 0 * size
  let quiet := operand? "status" arguments = some "none"
  let changes := Text.splitAt ',' ((operand? "conv" arguments).getD "").toList
  let changed (byte : UInt8) : UInt8 :=
    let character := Char.ofNat byte.toNat
    if changes.contains "ucase".toList then UInt8.ofNat character.toUpper.toNat
    else if changes.contains "lcase".toList then UInt8.ofNat character.toLower.toNat
    else byte
  let saved := (← get).descriptors
  let unopened {α : Type} (key : String) (fault : FileFault) : Run α :=
    fail 1 ("failed to open " ++ Text.quotedName ((operand? key arguments).getD "") ++ ": "
      ++ fault.wording)
  match operand? "if" arguments with
  | none => pure ()
  | some path =>
    match ← openPath .reading path with
    | .error fault => unopened "if" fault
    | .ok number => modify fun state => state.connect 0 number
  let readAll (count : Option Nat) : Run Bytes := do
    match ← takeBytes 0 count with
    | .ok content => pure content
    | .error fault =>
      let name := match operand? "if" arguments with
        | some path => Text.quotedName path
        | none => Text.quotedName "standard input"
      fail 1 ("error reading " ++ name ++ ": " ++ fault.wording)
  discard (readAll (some skipped))
  let content ← readAll total
  modify fun state => { state with descriptors := saved }
  let kept ← match operand? "of" arguments with
    | none => pure []
    | some path =>
      let old := match (← get).files.find (← get).current path with
        | .ok (_, .file content) => content
        | _ => []
      match ← openPath .writing path with
      | .error fault => unopened "of" fault
      | .ok number => do
        modify fun state => state.connect 1 number
        pure old
  let opening := kept.take seen ++ List.replicate (seen - kept.length) 0
  let ending := if changes.contains "notrunc".toList then kept.drop (seen + content.length) else []
  put (opening ++ content.map changed ++ ending)
  modify fun state => { state with descriptors := saved }
  if !quiet then
    let whole := toString (content.length / max size 1) ++ "+"
      ++ (if content.length % max size 1 = 0 then "0" else "1")
    let bytes := if content.length = 1 then " byte" else " bytes"
    writeText 2 (whole ++ " records in\n" ++ whole ++ " records out\n"
      ++ toString content.length ++ bytes ++ " copied\n")
  pure 0

structure DumpForm where
  size : Nat
  width : Nat
  shown : Nat → String
  hasText : Bool

def digitText (base width number : Nat) : String :=
  let digits := Nat.toDigits base number
  String.ofList (List.replicate (width - digits.length) '0' ++ digits)

def shownCharacter (code : Nat) : String :=
  match code with
  | 0 => "\\0"
  | 7 => "\\a"
  | 8 => "\\b"
  | 9 => "\\t"
  | 10 => "\\n"
  | 11 => "\\v"
  | 12 => "\\f"
  | 13 => "\\r"
  | _ => if 32 ≤ code ∧ code < 127 then (Char.ofNat code).toString else digitText 8 3 code

def controlNames : List String :=
  ["nul", "soh", "stx", "etx", "eot", "enq", "ack", "bel", "bs", "ht", "nl", "vt", "ff", "cr",
    "so", "si", "dle", "dc1", "dc2", "dc3", "dc4", "nak", "syn", "etb", "can", "em", "sub", "esc",
    "fs", "gs", "rs", "us", "sp"]

def shownName (code : Nat) : String :=
  let low := code % 128
  if low = 127 then "del" else (controlNames[low]?).getD (Char.ofNat low).toString

def numberForm (kind : Char) (size : Nat) (hasText : Bool) : DumpForm :=
  let bits := 8 * size
  match kind with
  | 'x' => ⟨size, 2 * size, digitText 16 (2 * size), hasText⟩
  | 'o' => ⟨size, (bits + 2) / 3, digitText 8 ((bits + 2) / 3), hasText⟩
  | 'u' => ⟨size, (toString (2 ^ bits - 1)).length, toString, hasText⟩
  | _ =>
    let signed (value : Nat) : Int :=
      if value < 2 ^ (bits - 1) then value else (value : Int) - 2 ^ bits
    ⟨size, (toString (2 ^ (bits - 1))).length + 1, fun value => toString (signed value), hasText⟩

def dumpForms (whole : String) : Nat → List Char → Run (List DumpForm)
  | 0, _ => pure []
  | _ + 1, [] => pure []
  | bound + 1, kind :: rest => do
    if kind = 'c' ∨ kind = 'a' then
      let hasText := rest.head? = some 'z'
      let shown := if kind = 'c' then shownCharacter else shownName
      pure (⟨1, 3, shown, hasText⟩
        :: (← dumpForms whole bound (if hasText then rest.drop 1 else rest)))
    else if ['d', 'o', 'u', 'x'].contains kind then
      let digits := rest.takeWhile Char.isDigit
      let behind := rest.drop digits.length
      let (size, left) := match digits, behind with
        | [], 'C' :: more => (1, more)
        | [], 'S' :: more => (2, more)
        | [], 'I' :: more => (4, more)
        | [], 'L' :: more => (8, more)
        | [], _ => (4, behind)
        | _, _ => ((String.ofList digits).toNat?.getD 4, behind)
      let hasText := left.head? = some 'z'
      pure (numberForm kind size hasText
        :: (← dumpForms whole bound (if hasText then left.drop 1 else left)))
    else
      fail 1 ("invalid character " ++ Text.quotedWord kind.toString ++ " in type string "
          ++ Text.quotedWord whole)

def blocks (length : Nat) : Nat → Bytes → List Bytes
  | 0, _ => []
  | bound + 1, content =>
    if content.isEmpty then []
    else content.take length :: blocks length bound (content.drop length)

def littleEndian (bytes : Bytes) : Nat :=
  bytes.foldr (fun byte value => value * 256 + byte.toNat) 0

def DumpForm.line (form : DumpForm) (length widest : Nat) (block : Bytes) : String :=
  let fields := length / form.size
  let spare := widest - (form.width + 1) * fields
  let groups := blocks form.size (block.length + 1) block
  let shown := groups.zipIdx.map fun (group, index) =>
    let before := spare * (fields - index) / fields
    let after := spare * (fields - index - 1) / fields
    let text := form.shown (littleEndian group)
    String.ofList (List.replicate (form.width + before - after - text.length + 1) ' ') ++ text
  let seen (byte : UInt8) : Char :=
    if 32 ≤ byte ∧ byte < 127 then Char.ofNat byte.toNat else '.'
  let padding := (form.width + 1) * (fields - groups.length)
  String.join shown ++ (if form.hasText then
      String.ofList (List.replicate padding ' ') ++ "  >" ++ String.ofList (block.map seen) ++ "<"
    else "")

def dumpOptions : Options where
  alone := "abcdfiloshvxBDFHIOX"
  valued := "ANjtwS"
  long := [("address-radix", 'A'), ("read-bytes", 'N'), ("skip-bytes", 'j'), ("format", 't'),
    ("output-duplicates", 'v'), ("width", 'w')]
  status := 1
  first := false

def shownOffset (radix : String) (offset : Nat) : String :=
  match radix with
  | "n" => ""
  | "d" => digitText 10 7 offset
  | "x" => digitText 16 6 offset
  | _ => digitText 8 7 offset

def dumpLines (radix : String) (forms : List DumpForm) (length : Nat) (all : Bool) :
    Nat → Option Bytes → Bool → List Bytes → List String
  | offset, _, _, [] => if radix = "n" then [] else [shownOffset radix offset]
  | offset, before, isMarked, block :: rest =>
    if !all && before = some block && !rest.isEmpty then
      (if isMarked then [] else ["*"])
        ++ dumpLines radix forms length all (offset + block.length) before true rest
    else
      let widest := (forms.map fun form => (form.width + 1) * (length / form.size)).foldl max 0
      let place := shownOffset radix offset
      let blank := String.ofList (List.replicate place.length ' ')
      (forms.zipIdx.map fun (form, index) =>
          (if index = 0 then place else blank) ++ form.line length widest block)
        ++ dumpLines radix forms length all (offset + block.length) (some block) false rest

def withWidth (arguments : List String) : List String :=
  arguments.map fun word => if word = "-w" then "-w32" else word

def od (arguments : List String) : Run Nat := do
  let (given, operands) ← dumpOptions.read (withWidth arguments)
  let texts := given.filterMap fun entry => match entry.1 with
    | 't' => some entry.2
    | 'a' => some "a"
    | 'b' => some "o1"
    | 'c' => some "c"
    | 'd' => some "u2"
    | 'o' | 'B' => some "o2"
    | 's' => some "d2"
    | 'x' | 'h' => some "x2"
    | 'i' => some "d4"
    | 'l' => some "d8"
    | _ => none
  let mut forms : List DumpForm := []
  for text in if texts.isEmpty then ["o2"] else texts do
    let more ← dumpForms text (text.length + 1) text.toList
    forms := forms ++ more
  let radix := (given.last? 'A').getD "o"
  let length := ((given.last? 'w').bind String.toNat?).getD 16
  let skipped := ((given.last? 'j').bind sized?).getD 0
  let limit := (given.last? 'N').bind sized?
  let mut content : Bytes := []
  let mut status := 0
  for path in if operands.isEmpty then ["-"] else operands do
    match ← contentUpTo (limit.map (· + skipped)) path with
    | .ok more => content := content ++ more
    | .error fault => do
      complain (plainComplaint path fault)
      status := 1
  let wanted := (limit.map (content.drop skipped).take).getD (content.drop skipped)
  if status = 0 || !wanted.isEmpty then
    putText (String.join ((dumpLines radix forms (max length 1) (given.has 'v') skipped none false
      (blocks (max length 1) (wanted.length + 1) wanted)).map (· ++ "\n")))
  pure status

def base64Options : Options where
  alone := "di"
  valued := "w"
  long := [("decode", 'd'), ("ignore-garbage", 'i'), ("wrap", 'w')]
  status := 1
  first := false

def base64 (arguments : List String) : Run Nat := do
  let (given, operands) ← base64Options.read arguments
  let width ← match given.last? 'w' with
    | none => pure 76
    | some text =>
      match text.toNat? with
      | some width => pure width
      | none => fail 1 ("invalid wrap size: " ++ Text.quotedWord text)
  match operands with
  | _ :: extra :: _ => misuse 1 ("extra operand " ++ Text.quotedWord extra)
  | _ => pure ()
  let path := operands.headD "-"
  match ← contentOf path with
  | .error .isDirectory => fail 1 "read error: Is a directory"
  | .error fault => fail 1 (plainComplaint path fault)
  | .ok content =>
    if given.has 'd' then
      let characters := (content.map fun byte => Char.ofNat byte.toNat).filter (· ≠ '\n')
      let isSpelled (character : Char) : Bool :=
        (Text.Base64.sextet? character).isSome || character = '='
      let body := if given.has 'i' then characters.filter isSpelled
        else characters.takeWhile isSpelled
      let spare := body.length % 4
      let whole := if spare < 2 then body.take (body.length - spare)
        else body ++ List.replicate (4 - spare) '='
      put ((Text.Base64.decode? whole).getD [])
      if (given.has 'i' || body.length = characters.length) && spare = 0 then pure 0
      else fail 1 "invalid input"
    else
      let encoded := (Text.Base64.encode content).map fun character =>
        UInt8.ofNat character.toNat
      put (if width = 0 then encoded else ofLines (blocks width (encoded.length + 1) encoded))
      pure 0

end ChartManifests.Program.Utility
