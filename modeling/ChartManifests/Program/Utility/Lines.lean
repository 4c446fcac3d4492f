import ChartManifests.Program.Utility.Basic
/-!
Utilities that pass lines on: all of them, the first or the last, backwards, numbered, folded, or
side by side; and one that counts them.
-/

namespace ChartManifests.Program.Utility

open Text (Bytes)

def visibleByte (byte : UInt8) : Bytes :=
  let code := byte.toNat
  let low := code % 128
  let mark : Bytes := if 128 ≤ code then Text.octets "M-" else []
  if code = 9 ∨ code = 10 then [byte]
  else if low < 32 then mark ++ [94, UInt8.ofNat (low + 64)]
  else if low = 127 then mark ++ [94, 63]
  else mark ++ [UInt8.ofNat low]

structure LineStyle where
  numbered : Bool
  numberedUnlessBlank : Bool
  squeezed : Bool
  endsShown : Bool
  tabsShown : Bool
  visible : Bool
deriving DecidableEq, Repr

def LineStyle.isPlain (style : LineStyle) : Bool :=
  style = ⟨false, false, false, false, false, false⟩

def LineStyle.show (style : LineStyle) (number : Option Nat) (line : Bytes) : Bytes :=
  let opening := match number with
    | some number => Text.octets (alignedNumber 6 number ++ "\t")
    | none => []
  let body := withoutEnd line
  let seen := if style.visible then body.flatMap visibleByte else body
  let tabbed := if style.tabsShown then
      seen.flatMap fun byte => if byte = 9 then [94, 73] else [byte]
    else seen
  let ending := line.drop body.length
  opening ++ tabbed ++ (if style.endsShown && !ending.isEmpty then [36] else []) ++ ending

def LineStyle.showAll (style : LineStyle) : Nat → Bool → List Bytes → Bytes
  | _, _, [] => []
  | number, blank, line :: rest =>
    let isBlank := line = [10]
    if style.squeezed && blank && isBlank then style.showAll number blank rest
    else
      let counts := if style.numberedUnlessBlank then !isBlank else style.numbered
      style.show (if counts then some number else none) line
        ++ style.showAll (if counts then number + 1 else number) isBlank rest

def catOptions : Options where
  alone := "AbeEnstTuv"
  valued := ""
  long := [("show-all", 'A'), ("number-nonblank", 'b'), ("show-ends", 'E'), ("number", 'n'),
    ("squeeze-blank", 's'), ("show-tabs", 'T'), ("show-nonprinting", 'v')]
  status := 1
  first := false

def cat (arguments : List String) : Run Nat := do
  let (given, operands) ← catOptions.read arguments
  let asks (letters : List Char) : Bool := letters.any given.has
  let style : LineStyle := ⟨asks ['n'], asks ['b'], asks ['s'], asks ['A', 'e', 'E'],
    asks ['A', 't', 'T'], asks ['A', 'e', 't', 'v']⟩
  if style.isPlain then
    onAll (if operands.isEmpty then ["-"] else operands) fun path => do
      let fault? := match ← withOperand path passOnFrom with
        | .ok fault? => fault?
        | .error fault => some fault
      match fault? with
      | none => pure 0
      | some fault => do
        complain (plainComplaint path fault)
        pure 1
  else
    let mut gathered : Bytes := []
    let mut status := 0
    for path in if operands.isEmpty then ["-"] else operands do
      match ← contentOf path with
      | .ok content => gathered := gathered ++ content
      | .error fault => do
        complain (plainComplaint path fault)
        status := 1
    put (style.showAll 1 false (linesOf gathered))
    pure status

def withCount (arguments : List String) : List String :=
  match arguments with
  | word :: rest =>
    match word.toList with
    | '-' :: digit :: digits =>
      if digit.isDigit then
        let count := (digit :: digits).takeWhile Char.isDigit
        let letters := (digit :: digits).drop count.length
        let unit := if letters.contains 'c' then "-c" else "-n"
        unit :: String.ofList count :: rest
      else arguments
    | _ => arguments
  | [] => []

def amountOf (given : Given) : Run (Bool × Char × Nat) := do
  let inBytes := given.lastOf? ['c', 'n'] = some 'c'
  let text := (given.last? (if inBytes then 'c' else 'n')).getD "10"
  let (sign, digits) := match text.toList with
    | '-' :: rest => ('-', String.ofList rest)
    | '+' :: rest => ('+', String.ofList rest)
    | _ => (' ', text)
  match sized? digits with
  | some number => pure (inBytes, sign, number)
  | none =>
    fail 1 ("invalid number of " ++ (if inBytes then "bytes" else "lines") ++ ": "
      ++ Text.quotedWord text)

def portions (given : Given) (operands : List String)
    (choose : Nat → Run (Except FileFault Bytes)) : Run Nat := do
  let paths := if operands.isEmpty then ["-"] else operands
  let named := given.has 'v' || (1 < paths.length && !given.has 'q')
  onAll paths.zipIdx fun (path, index) => do
    let title : Run Unit := if named then
        putText ((if index = 0 then "" else "\n") ++ "==> "
          ++ (if path = "-" then "standard input" else path) ++ " <==\n")
      else pure ()
    match ← withOperand path choose with
    | .ok (.ok content) => do
      title
      put content
      pure 0
    | .ok (.error fault) => do
      title
      complain (openingComplaint path fault)
      pure 1
    | .error fault => do
      complain (openingComplaint path fault)
      pure 1

def lineBlock : Nat := 8192

def upToLine : Nat → Bytes → Except Nat Bytes
  | 0, _ => .ok []
  | count, [] => .error count
  | count + 1, byte :: rest =>
    (upToLine (if byte = 10 then count else count + 1) rest).map (byte :: ·)

def giveBack (descriptor count : Nat) : Run Unit :=
  modify fun state =>
    match state.streamNumber? descriptor, state.stream? descriptor with
    | some number, some (.opened node offset access) =>
      state.setStream number (.opened node (offset - count) access)
    | _, _ => state

/-- Takes a number of lines from a descriptor, the latest piece in front. What was read beyond them
is given back. -/
def takeLines (descriptor : Nat) : Nat → Nat → List Bytes → Run (Except FileFault Bytes)
  | 0, _, pieces => pure (.ok (joined pieces))
  | bound + 1, count, pieces =>
    if count = 0 then pure (.ok (joined pieces))
    else do
      match ← receive descriptor lineBlock with
      | .error fault => pure (.error fault)
      | .ok [] => pure (.ok (joined pieces))
      | .ok piece =>
        match upToLine count piece with
        | .ok begun => do
          giveBack descriptor (piece.length - begun.length)
          pure (.ok (joined (begun :: pieces)))
        | .error left => takeLines descriptor bound left (piece :: pieces)

def headOptions : Options where
  alone := "qvz"
  valued := "cn"
  long := [("bytes", 'c'), ("lines", 'n'), ("quiet", 'q'), ("silent", 'q'), ("verbose", 'v')]
  status := 1
  first := false

def head (arguments : List String) : Run Nat := do
  let (given, operands) ← headOptions.read (withCount arguments)
  let (inBytes, sign, number) ← amountOf given
  let allBut {α : Type} (items : List α) : List α := items.take (items.length - number)
  portions given operands fun descriptor => do
    match inBytes, sign with
    | true, '-' => do pure ((← takeBytes descriptor none).map allBut)
    | false, '-' => do
      pure ((← takeBytes descriptor none).map fun content => (allBut (linesOf content)).flatten)
    | true, _ => takeBytes descriptor (some number)
    | false, _ => takeLines descriptor longestGathering number []

def tailOptions : Options where
  alone := "fFqvz"
  valued := "cns"
  long := [("bytes", 'c'), ("lines", 'n'), ("quiet", 'q'), ("silent", 'q'), ("verbose", 'v'),
    ("follow", 'f')]
  status := 1
  first := false

def tail (arguments : List String) : Run Nat := do
  let signed := match arguments with
    | word :: rest =>
      match word.toList with
      | '+' :: digit :: _ => if digit.isDigit then "-n" :: word :: rest else arguments
      | _ => withCount arguments
    | [] => []
  let (given, operands) ← tailOptions.read signed
  let (inBytes, sign, number) ← amountOf given
  let part {α : Type} (items : List α) : List α :=
    items.drop (if sign = '+' then number - 1 else items.length - number)
  let status ← portions given operands fun descriptor => do
    pure ((← takeBytes descriptor none).map fun content =>
      if inBytes then part content else (part (linesOf content)).flatten)
  if (given.has 'f' || given.has 'F') && !operands.isEmpty then Run.stall
  pure status

def backwardsOptions : Options where
  alone := "br"
  valued := "s"
  long := [("before", 'b'), ("regex", 'r'), ("separator", 's')]
  status := 1
  first := false

def tac (arguments : List String) : Run Nat := do
  let (_, operands) ← backwardsOptions.read arguments
  let complaint (path : String) (fault : FileFault) : String :=
    if fault = .isDirectory then
      Text.shownName (operandName path) ++ ": read error: Invalid argument"
    else "failed to open " ++ Text.quotedName path ++ " for reading: " ++ fault.wording
  onEach operands complaint fun _ content => put (linesOf content).reverse.flatten

def rev (arguments : List String) : Run Nat := do
  let (_, operands) ← (Options.nothing 1 false).read arguments
  modify fun state => { state with title := "rev" }
  let complaint (path : String) (fault : FileFault) : String :=
    "cannot open " ++ path ++ ": " ++ fault.wording
  onEach operands complaint fun _ content =>
    put ((linesOf content).flatMap fun line =>
      (withoutEnd line).reverse ++ line.drop (withoutEnd line).length)

def numberingOptions : Options where
  alone := "p"
  valued := "bdfhilnsvw"
  long := [("body-numbering", 'b'), ("number-separator", 's'), ("number-width", 'w'),
    ("starting-line-number", 'v'), ("line-increment", 'i'), ("number-format", 'n')]
  status := 1
  first := false

def nl (arguments : List String) : Run Nat := do
  let (given, operands) ← numberingOptions.read arguments
  let style := (given.last? 'b').getD "t"
  let separator := (given.last? 's').getD "\t"
  let width := ((given.last? 'w').bind String.toNat?).getD 6
  let step := ((given.last? 'i').bind String.toNat?).getD 1
  let shown (number : Nat) : String := match given.last? 'n' with
    | some "ln" =>
      let digits := toString number
      digits ++ String.ofList (List.replicate (width - digits.length) ' ')
    | some "rz" =>
      let digits := toString number
      String.ofList (List.replicate (width - digits.length) '0') ++ digits
    | _ => alignedNumber width number
  let blank := Text.octets
    (String.ofList (List.replicate (width + separator.length) ' '))
  let rec number (next : Nat) : List Bytes → Bytes
    | [] => []
    | line :: rest =>
      if style = "a" || (style = "t" && !line.isEmpty) then
        Text.octets (shown next ++ separator) ++ line ++ [10] ++ number (next + step) rest
      else blank ++ line ++ [10] ++ number next rest
  let first := ((given.last? 'v').bind String.toNat?).getD 1
  onEach operands plainComplaint fun _ content => put (number first (bareLines content))

def foldOptions : Options where
  alone := "bs"
  valued := "w"
  long := [("bytes", 'b'), ("spaces", 's'), ("width", 'w')]
  status := 1
  first := false

/-- A line in pieces that are at most so wide; where `atBlanks` is set, a piece ends with its last
blank if it has one. -/
def foldedLine (width : Nat) (atBlanks : Bool) : Nat → Bytes → List Bytes
  | 0, line => [line]
  | bound + 1, line =>
    if line.length ≤ width then [line]
    else
      let piece := line.take width
      let upToBlank := (piece.reverse.dropWhile fun byte => !isBlankByte byte).reverse
      let kept := if atBlanks && !upToBlank.isEmpty then upToBlank else piece
      kept :: foldedLine width atBlanks bound (line.drop kept.length)

def fold (arguments : List String) : Run Nat := do
  let (given, operands) ← foldOptions.read arguments
  let text := (given.last? 'w').getD "80"
  let width := text.toNat?.getD 0
  if width = 0 then
    fail 1 ("invalid number of columns: " ++ Text.quotedWord text
      ++ (if text.toNat?.isSome then ": Numerical result out of range" else ""))
  else
    onEach operands plainComplaint fun _ content =>
      put ((linesOf content).flatMap fun line =>
        let bare := withoutEnd line
        [10].intercalate (foldedLine width (given.has 's') (bare.length + 1) bare)
          ++ line.drop bare.length)

def pasteOptions : Options where
  alone := "sz"
  valued := "d"
  long := [("serial", 's'), ("delimiters", 'd')]
  status := 1
  first := false

def separatorsOf : List Char → List Bytes
  | '\\' :: 'n' :: rest => [10] :: separatorsOf rest
  | '\\' :: 't' :: rest => [9] :: separatorsOf rest
  | '\\' :: '0' :: rest => [] :: separatorsOf rest
  | '\\' :: '\\' :: rest => [92] :: separatorsOf rest
  | character :: rest => Text.octets character.toString :: separatorsOf rest
  | [] => []

def separated (separators : List Bytes) (items : List Bytes) : Bytes :=
  (items.zipIdx.map fun (item, index) =>
    if index = 0 then item
    else (separators[(index - 1) % max separators.length 1]?).getD [] ++ item).flatten

def rows : Nat → List (List Bytes) → List (List Bytes)
  | 0, _ => []
  | bound + 1, columns =>
    if columns.all List.isEmpty then []
    else columns.map (fun column => column.headD []) :: rows bound (columns.map (·.drop 1))

def paste (arguments : List String) : Run Nat := do
  let (given, operands) ← pasteOptions.read arguments
  let separators := match given.last? 'd' with
    | some text => if text = "" then [[]] else separatorsOf text.toList
    | none => [[9]]
  let paths := if operands.isEmpty then ["-"] else operands
  if given.has 's' then
    onEach paths plainComplaint fun _ content =>
      put (separated separators (bareLines content) ++ [10])
  else
    let shared := paths.count "-"
    let coming ← if shared = 0 then pure [] else
      match ← takeBytes 0 none with
      | .ok content => pure (bareLines content)
      | .error fault => fail 1 (plainComplaint "-" fault)
    let mut columns : List (List Bytes) := []
    let mut taken := 0
    for path in paths do
      if path = "-" then
        columns := columns ++ [(coming.zipIdx.filter fun entry => entry.2 % shared = taken).map
          Prod.fst]
        taken := taken + 1
      else
        match ← contentOf path with
        | .ok content => columns := columns ++ [bareLines content]
        | .error fault => fail 1 (plainComplaint path fault)
    let longest := (columns.map List.length).foldl max 0
    put (ofLines ((rows (longest + 1) columns).map (separated separators)))
    pure 0

def wordCount : Bool → Bytes → Nat
  | _, [] => 0
  | inside, byte :: rest =>
    let isBlank := byte = 32 || (9 ≤ byte && byte ≤ 13)
    (if !isBlank && !inside then 1 else 0) + wordCount (!isBlank) rest

def countOptions : Options where
  alone := "clLmw"
  valued := ""
  long := [("bytes", 'c'), ("lines", 'l'), ("max-line-length", 'L'), ("chars", 'm'),
    ("words", 'w')]
  status := 1
  first := false

def countsOf (wanted : Char → Bool) (content : Bytes) : List Nat :=
  let one (letter : Char) (count : Nat) : List Nat := if wanted letter then [count] else []
  one 'l' (content.count 10) ++ one 'w' (wordCount false content)
    ++ one 'm' content.length ++ one 'c' content.length
    ++ one 'L' (((bareLines content).map List.length).foldl max 0)

/-- How large the file is that an operand names: nothing is known of one that is not there, and what
is no file has no size. -/
def regularSize (path : String) : Run (Option (Option Nat)) := do
  let state ← get
  if path = "-" then
    pure (some (match state.stream? 0 with
      | some (.opened node _ _) => (state.files.bytesOf? node).map List.length
      | _ => none))
  else
    pure (match state.files.find state.current path with
      | .ok (_, .file content) => some (some content.length)
      | .ok (_, .utility _) => some (some 0)
      | .ok _ => some none
      | .error _ => none)

def wc (arguments : List String) : Run Nat := do
  let (given, operands) ← countOptions.read arguments
  let letters := ['l', 'w', 'm', 'c', 'L']
  let wanted (letter : Char) : Bool :=
    if letters.any given.has then given.has letter else ['l', 'w', 'c'].contains letter
  let columns := (letters.filter wanted).length
  let sizes ← (if operands.isEmpty then ["-"] else operands).mapM regularSize
  let known := sizes.filterMap id
  let digits := (toString (totalOf (known.filterMap id))).length
  let width := if columns = 1 ∧ operands.length ≤ 1 then 1
    else if known.contains none then max 7 digits else digits
  let report (counts : List Nat) (name : String) : Run Unit :=
    putText (" ".intercalate (counts.map (alignedNumber width))
      ++ (if name = "" then "" else " " ++ name) ++ "\n")
  let mut totals : List Nat := List.replicate columns 0
  let mut status := 0
  for path in if operands.isEmpty then ["-"] else operands do
    match ← contentOf path with
    | .ok content =>
      let counts := countsOf wanted content
      totals := totals.zipWith (· + ·) counts
      report counts (if operands.isEmpty then "" else path)
    | .error fault => do
      complain (plainComplaint (operandName path) fault)
      if fault = .isDirectory then
        report (List.replicate columns 0) (if operands.isEmpty then "" else path)
      status := 1
  if 1 < operands.length then report totals "total"
  pure status

def teeOptions : Options where
  alone := "aip"
  valued := ""
  long := [("append", 'a'), ("ignore-interrupts", 'i')]
  status := 1
  first := false

def tee (arguments : List String) : Run Nat := do
  let (given, operands) ← teeOptions.read arguments
  let mut status := 0
  let mut opened : List Nat := []
  for (path, index) in operands.zipIdx do
    match ← openPath (if given.has 'a' then .appending else .writing) path with
    | .ok number => do
      let descriptor := spareDescriptor + 1 + index
      modify fun state => state.connect descriptor number
      opened := opened ++ [descriptor]
    | .error fault => do
      complain (plainComplaint path fault)
      status := 1
  let targets := opened
  let fault? ← onPieces 0 (fun piece => do
      put piece
      for descriptor in targets do
        discard (write descriptor piece)) longestGathering
  match fault? with
  | none => pure status
  | some fault => fail 1 ("read error: " ++ fault.wording)

end ChartManifests.Program.Utility
