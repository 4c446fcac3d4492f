import ChartManifests.Program.Printing
import ChartManifests.Program.Utility.Basic
import ChartManifests.Text.Utf8
/-!
Utilities that put lines in order, or compare lines that are in order. Lines are compared by keys:
each is a part of the line, taken as text, as a number or in another way.
-/

namespace ChartManifests.Program.Utility

open Text (Bytes)

def compareBytes : Bytes → Bytes → Ordering
  | [], [] => .eq
  | [], _ :: _ => .lt
  | _ :: _, [] => .gt
  | left :: lefts, right :: rights =>
    (compare left.toNat right.toNat).then (compareBytes lefts rights)

/-- A key of a line: where it begins and where it ends, how it is compared, and at which of its ends
blanks are passed over. -/
structure Key where
  field : Nat
  offset : Nat
  last : Option (Nat × Nat)
  letters : List Char
  skipsAtStart : Bool
  skipsAtEnd : Bool
deriving DecidableEq, Repr

/-- What is left of a line behind so many fields. A field that ends at a separator takes it along
where `past` says so of the count of fields that are left. -/
def behindFields (separator : Option UInt8) (past : Nat → Bool) : Nat → Bytes → Bytes
  | 0, line => line
  | count + 1, line =>
    match separator with
    | some mark =>
      let rest := line.dropWhile (· ≠ mark)
      behindFields separator past count (if past count then rest.drop 1 else rest)
    | none =>
      behindFields separator past count
        ((line.dropWhile isBlankByte).dropWhile fun byte => !isBlankByte byte)

def Key.part (separator : Option UInt8) (key : Key) (line : Bytes) : Bytes :=
  let skip (skips : Bool) (text : Bytes) : Bytes :=
    if skips then text.dropWhile isBlankByte else text
  let start := (skip key.skipsAtStart (behindFields separator (fun _ => true) key.field line)).drop
    key.offset
  let finish := match key.last with
    | none => []
    | some (field, 0) => behindFields separator (fun left => 0 < left) (field + 1) line
    | some (field, offset) =>
      (skip key.skipsAtEnd (behindFields separator (fun _ => true) field line)).drop offset
  start.take (start.length - finish.length)

def leadingNumber (text : Bytes) : Int × Nat × Bytes :=
  let isDigit (byte : UInt8) : Bool := 48 ≤ byte && byte ≤ 57
  let trimmed := text.dropWhile isBlankByte
  let negative := trimmed.head? = some 45
  let body := if negative then trimmed.drop 1 else trimmed
  let whole := body.takeWhile isDigit
  let behind := body.drop whole.length
  let fraction := if behind.head? = some 46 then (behind.drop 1).takeWhile isDigit else []
  let rest := if behind.head? = some 46 then behind.drop (fraction.length + 1) else behind
  let value : Int :=
    (whole ++ fraction).foldl (fun value byte => value * 10 + (byte.toNat - 48)) (0 : Nat)
  (if negative then -value else value, fraction.length, rest)

def compareNumbers (left right : Int × Nat) : Ordering :=
  compare (left.1 * 10 ^ right.2) (right.1 * 10 ^ left.2)

def monthRank (text : Bytes) : Nat :=
  let names := ["JAN", "FEB", "MAR", "APR", "MAY", "JUN", "JUL", "AUG", "SEP", "OCT", "NOV", "DEC"]
  let start := ((Text.charactersOf (text.dropWhile isBlankByte)).take 3).map Char.toUpper
  (names.findIdx? fun name => name.toList = start).elim 0 (· + 1)

def unitRank (rest : Bytes) : Nat :=
  match Text.charactersOf (rest.take 1) with
  | ['k'] => 1
  | [letter] => ("KMGTPEZYRQ".toList.findIdx? (· = letter)).elim 0 (· + 1)
  | _ => 0

def versionRank (byte : UInt8) : Int :=
  let character := Char.ofNat byte.toNat
  if character = '~' then -1
  else if character.isAlpha then byte.toNat
  else byte.toNat + 256

def compareVersions : Nat → Bytes → Bytes → Ordering
  | 0, _, _ => .eq
  | bound + 1, left, right =>
    if left.isEmpty && right.isEmpty then .eq
    else
      let isDigit (byte : UInt8) : Bool := 48 ≤ byte && byte ≤ 57
      let ranks (text : Bytes) (count : Nat) : List Int :=
        (List.range count).map fun index =>
          match text[index]? with
          | some byte => if isDigit byte then 0 else versionRank byte
          | none => 0
      let names := (left.takeWhile (!isDigit ·), right.takeWhile (!isDigit ·))
      let count := max names.1.length names.2.length
      let byNames := compareInts (ranks names.1 count) (ranks names.2 count)
      let digits := ((left.drop names.1.length).takeWhile isDigit,
        (right.drop names.2.length).takeWhile isDigit)
      let value (text : Bytes) : Nat :=
        text.foldl (fun value byte => value * 10 + (byte.toNat - 48)) 0
      (byNames.then (compare (value digits.1) (value digits.2))).then
        (compareVersions bound (left.drop (names.1.length + digits.1.length))
          (right.drop (names.2.length + digits.2.length)))
where
  compareInts : List Int → List Int → Ordering
    | [], [] => .eq
    | [], _ :: _ => .lt
    | _ :: _, [] => .gt
    | first :: firsts, second :: seconds =>
      (compare first second).then (compareInts firsts seconds)

def generalValue (text : Bytes) : Int × Real :=
  match argumentReal 64 (String.ofList (Text.charactersOf text)) with
  | some (.finite negative magnitude, _) => (2, .finite negative magnitude)
  | some (.infinite negative, _) => (if negative then 1 else 3, .infinite negative)
  | some (.undefined negative, _) => (0, .undefined negative)
  | none => (-1, .undefined false)

def compareGeneral (left right : Bytes) : Ordering :=
  let (leftRank, leftValue) := generalValue left
  let (rightRank, rightValue) := generalValue right
  let signed (negative : Bool) (ratio : Ratio) : Int :=
    if negative then -(ratio.numerator : Int) else ratio.numerator
  (compare leftRank rightRank).then (match leftValue, rightValue with
    | .finite leftNegative first, .finite rightNegative second =>
      compare (signed leftNegative first * second.denominator)
        (signed rightNegative second * first.denominator)
    | _, _ => .eq)

def compareBy (letters : List Char) (left right : Bytes) : Ordering :=
  let has (letter : Char) : Bool := letters.contains letter
  let character (byte : UInt8) : Char := Char.ofNat byte.toNat
  let read (text : Bytes) : Bytes :=
    let kept := text.filter fun byte =>
      (!has 'd' || (character byte).isAlphanum || isBlankByte byte)
        && (!has 'i' || (32 ≤ byte && byte < 127))
    if has 'f' then kept.map fun byte => UInt8.ofNat (character byte).toUpper.toNat else kept
  let result :=
    if has 'n' then
      let (first, places, _) := leadingNumber left
      let (second, others, _) := leadingNumber right
      compareNumbers (first, places) (second, others)
    else if has 'h' then
      let (first, places, firstRest) := leadingNumber left
      let (second, others, secondRest) := leadingNumber right
      let rank (value : Int) (rest : Bytes) : Int :=
        if value = 0 then 0 else if value < 0 then -1 - unitRank rest else 1 + unitRank rest
      (compare (rank first firstRest) (rank second secondRest)).then
        (compareNumbers (first, places) (second, others))
    else if has 'g' then compareGeneral left right
    else if has 'M' then compare (monthRank left) (monthRank right)
    else if has 'V' then compareVersions (left.length + right.length + 1) left right
    else compareBytes (read left) (read right)
  if has 'r' then result.swap else result

structure SortOrder where
  separator : Option UInt8
  keys : List Key
  letters : List Char
  isStable : Bool
  isUnique : Bool
deriving DecidableEq, Repr

def SortOrder.compareKeys (order : SortOrder) (left right : Bytes) : Ordering :=
  let whole : Key := ⟨0, 0, none, [], false, false⟩
  (if order.keys.isEmpty then [whole] else order.keys).foldl (fun result key =>
    let isBare := key.letters.isEmpty && !key.skipsAtStart && !key.skipsAtEnd
    let skips := order.letters.contains 'b'
    let used := if isBare then
        { key with letters := order.letters, skipsAtStart := skips, skipsAtEnd := skips }
      else key
    result.then (compareBy used.letters (used.part order.separator left)
      (used.part order.separator right))) .eq

def SortOrder.compareLines (order : SortOrder) (left right : Bytes) : Ordering :=
  let byKeys := order.compareKeys left right
  if order.isStable || order.isUnique then byKeys
  else
    let whole := compareBytes left right
    byKeys.then (if order.letters.contains 'r' then whole.swap else whole)

def SortOrder.unique (order : SortOrder) : List Bytes → List Bytes
  | [] => []
  | line :: rest =>
    match order.unique rest with
    | [] => [line]
    | next :: others =>
      if order.compareKeys line next = .eq then line :: others else line :: next :: others

def SortOrder.sort (order : SortOrder) (lines : List Bytes) : List Bytes :=
  let sorted := lines.mergeSort fun left right => order.compareLines left right ≠ .gt
  if order.isUnique then order.unique sorted else sorted

def keyCount (role : String) (text : List Char) : Run (Nat × List Char) := do
  let digits := text.takeWhile Char.isDigit
  if digits.isEmpty then
    fail 2 (role ++ ": invalid count at start of " ++ Text.quotedWord (String.ofList text))
  else pure ((String.ofList digits).toNat?.getD 0, text.drop digits.length)

def orderLetters : List Char := "bdfghiMnRrV".toList

def keyOf (text : String) : Run Key := do
  let refuse {α : Type} (what : String) : Run α :=
    fail 2 (what ++ ": invalid field specification " ++ Text.quotedWord text)
  let (field, behind) ← keyCount "invalid number at field start" text.toList
  if field = 0 then refuse "field number is zero"
  let (offset, rest) ← match behind with
    | '.' :: more => keyCount "invalid number after '.'" more
    | _ => pure (1, behind)
  if offset = 0 then refuse "character offset is zero"
  let starts := rest.takeWhile orderLetters.contains
  let (last, finishes, left) ← match rest.drop starts.length with
    | ',' :: more => do
      let (finish, behind) ← keyCount "invalid number after ','" more
      if finish = 0 then refuse "field number is zero"
      let (offset, rest) ← match behind with
        | '.' :: more => keyCount "invalid number after '.'" more
        | _ => pure (0, behind)
      let letters := rest.takeWhile orderLetters.contains
      pure (some (finish - 1, offset), letters, rest.drop letters.length)
    | others => pure (none, [], others)
  if !left.isEmpty then refuse "stray character in field spec"
  pure ⟨field - 1, offset - 1, last, (starts ++ finishes).filter (· ≠ 'b'),
    starts.contains 'b', finishes.contains 'b'⟩

def sortOptions : Options where
  alone := "bcCdfghimMnRrsuVz"
  valued := "kotST"
  long := [("ignore-leading-blanks", 'b'), ("dictionary-order", 'd'), ("ignore-case", 'f'),
    ("general-numeric-sort", 'g'), ("human-numeric-sort", 'h'), ("ignore-nonprinting", 'i'),
    ("merge", 'm'), ("month-sort", 'M'), ("numeric-sort", 'n'), ("reverse", 'r'),
    ("stable", 's'), ("unique", 'u'), ("version-sort", 'V'), ("key", 'k'), ("output", 'o'),
    ("field-separator", 't'), ("check", 'c')]
  status := 2
  first := false

def separatorOf (given : Given) : Run (Option UInt8) := do
  match given.last? 't' with
  | none => pure none
  | some "" => fail 2 "empty tab"
  | some "\\0" => pure (some 0)
  | some text =>
    match Text.octets text with
    | [byte] => pure (some byte)
    | _ => fail 2 ("multi-character tab " ++ Text.quotedWord text)

def SortOrder.disorder? (order : SortOrder) : Nat → List Bytes → Option (Nat × Bytes)
  | _, [] | _, [_] => none
  | number, line :: next :: rest =>
    let isBad := match order.compareLines line next with
      | .gt => true
      | .eq => order.isUnique
      | .lt => false
    if isBad then some (number + 1, next) else order.disorder? (number + 1) (next :: rest)

def sort (arguments : List String) : Run Nat := do
  let (given, operands) ← sortOptions.read arguments
  let separator ← separatorOf given
  let mut keys : List Key := []
  for entry in given do
    if entry.1 = 'k' then
      let key ← keyOf entry.2
      keys := keys ++ [key]
  let order : SortOrder := ⟨separator, keys,
    (given.map Prod.fst).filter orderLetters.contains, given.has 's', given.has 'u'⟩
  let checks := given.has 'c' || given.has 'C'
  let paths := if operands.isEmpty then ["-"] else operands
  match checks, paths with
  | true, _ :: second :: _ =>
      fail 2 ("extra operand " ++ Text.quotedWord second ++ " not allowed with -c")
  | _, _ => pure ()
  let mut lines : List Bytes := []
  for path in paths do
    match ← contentOf path with
    | .ok content => lines := lines ++ bareLines content
    | .error .isDirectory => fail 2 ("read failed: " ++ path ++ ": Is a directory")
    | .error fault => fail 2 ("cannot read: " ++ path ++ ": " ++ fault.wording)
  if checks then
    match order.disorder? 1 lines with
    | none => pure 0
    | some (number, line) => do
      if given.has 'c' then
        complain (paths.headD "-" ++ ":" ++ toString number ++ ": disorder: "
          ++ Text.ofOctets line)
      pure 1
  else
    let sorted := ofLines (order.sort lines)
    match given.last? 'o' with
    | none => do
      put sorted
      pure 0
    | some path =>
      match ← openPath .writing path with
      | .error fault => fail 2 ("open failed: " ++ path ++ ": " ++ fault.wording)
      | .ok number => do
        let saved := (← get).descriptors
        modify fun state => state.connect 1 number
        put sorted
        modify fun state => { state with descriptors := saved }
        pure 0

def uniqueOptions : Options where
  alone := "cdDiuz"
  valued := "fsw"
  long := [("count", 'c'), ("repeated", 'd'), ("all-repeated", 'D'), ("ignore-case", 'i'),
    ("unique", 'u'), ("skip-fields", 'f'), ("skip-chars", 's'), ("check-chars", 'w')]
  status := 1
  first := false

def grouped (key : Bytes → Bytes) : List Bytes → List (List Bytes)
  | [] => []
  | line :: rest =>
    match grouped key rest with
    | (next :: more) :: others =>
      if key line = key next then (line :: next :: more) :: others
      else [line] :: (next :: more) :: others
    | others => [line] :: others

def countOption (given : Given) (letter : Char) (what : String) : Run (Option Nat) := do
  match given.last? letter with
  | none => pure none
  | some text =>
    match text.toNat? with
    | some number => pure (some number)
    | none => fail 1 (text ++ ": invalid number of " ++ what)

def uniq (arguments : List String) : Run Nat := do
  let (given, operands) ← uniqueOptions.read arguments
  let fields ← countOption given 'f' "fields to skip"
  let offset ← countOption given 's' "bytes to skip"
  let width ← countOption given 'w' "bytes to compare"
  match operands with
  | _ :: _ :: extra :: _ => misuse 1 ("extra operand " ++ Text.quotedWord extra)
  | _ => pure ()
  let source := operands.headD "-"
  let content ← match ← contentOf source with
    | .ok content => pure content
    | .error .isDirectory =>
      fail 1 ("error reading " ++ Text.quotedName source ++ ": Is a directory")
    | .error fault => fail 1 (plainComplaint source fault)
  let key (line : Bytes) : Bytes :=
    let start := (behindFields none (fun _ => true) (fields.getD 0) line).drop (offset.getD 0)
    let part := (width.map start.take).getD start
    if given.has 'i' then
      part.map fun byte => UInt8.ofNat (Char.ofNat byte.toNat).toLower.toNat
    else part
  let shown := (grouped key (bareLines content)).flatMap fun lines =>
    let count := lines.length
    let isWanted := (count = 1 || !given.has 'u') && (1 < count || !(given.has 'd'))
    let opening := if given.has 'c' then Text.octets (alignedNumber 7 count ++ " ") else []
    if given.has 'D' then (if 1 < count then lines else [])
    else if isWanted then (lines.take 1).map (opening ++ ·)
    else []
  match operands.drop 1 with
  | target :: _ =>
    match ← openPath .writing target with
    | .error fault => fail 1 (plainComplaint target fault)
    | .ok number => modify fun state => state.connect 1 number
  | [] => pure ()
  put (ofLines shown)
  pure 0

def commonOptions : Options where
  alone := "123z"
  valued := ""
  long := []
  status := 1
  first := false

def merged : Nat → List Bytes → List Bytes → List (Nat × Bytes)
  | 0, _, _ => []
  | _, [], rights => rights.map fun line => (2, line)
  | _, lefts, [] => lefts.map fun line => (1, line)
  | bound + 1, left :: lefts, right :: rights =>
    match compareBytes left right with
    | .lt => (1, left) :: merged bound lefts (right :: rights)
    | .gt => (2, right) :: merged bound (left :: lefts) rights
    | .eq => (3, left) :: merged bound lefts rights

def comm (arguments : List String) : Run Nat := do
  let (given, operands) ← commonOptions.read arguments
  match operands with
  | [] => missing 1
  | [only] => misuse 1 ("missing operand after " ++ Text.quotedWord only)
  | _ :: _ :: extra :: _ => misuse 1 ("extra operand " ++ Text.quotedWord extra)
  | [first, second] => do
    let linesIn (path : String) : Run (List Bytes) := do
      match ← contentOf path with
      | .ok content => pure (bareLines content)
      | .error fault => fail 1 (plainComplaint path fault)
    let lefts ← linesIn first
    let rights ← linesIn second
    let isShown (column : Nat) : Bool := !given.has (Char.ofNat (48 + column))
    let lines := (merged (lefts.length + rights.length + 1) lefts rights).filter fun entry =>
      isShown entry.1
    put (ofLines (lines.map fun (column, line) =>
      List.replicate ((List.range (column - 1)).filter fun index => isShown (index + 1)).length 9
        ++ line))
    pure 0

end ChartManifests.Program.Utility
