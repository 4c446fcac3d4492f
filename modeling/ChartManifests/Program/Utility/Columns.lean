import ChartManifests.Program.Utility.Basic
/-!
Parts of lines by their positions: bytes, or fields between separators. The positions are given as a
list of ranges.
-/

namespace ChartManifests.Program.Utility

open Text (Bytes)

structure PositionRange where
  low : Nat
  high : Option Nat
deriving DecidableEq, Repr

def PositionRange.holds (range : PositionRange) (position : Nat) : Bool :=
  range.low ≤ position && range.high.all (position ≤ ·)

def rangeOf (isField : Bool) (text : String) : Run PositionRange := do
  let zero {α : Type} : Run α :=
    misuse 1 (if isField then "fields are numbered from 1"
      else "byte/character positions are numbered from 1")
  let number (digits : List Char) : Run Nat := do
    match (String.ofList digits).toNat? with
    | some 0 => zero
    | some number => pure number
    | none => misuse 1 ("invalid "
        ++ (if isField then "field value" else "byte/character position")
        ++ " " ++ Text.quotedName text)
  let low := text.toList.takeWhile (· ≠ '-')
  let high := text.toList.drop (low.length + 1)
  if text = "" then zero
  else if low.length = text.length then do
    let only ← number low
    pure ⟨only, some only⟩
  else if low.isEmpty && high.isEmpty then
    misuse 1 "invalid range with no endpoint: -"
  else do
    let first ← if low.isEmpty then pure 1 else number low
    if high.isEmpty then pure ⟨first, none⟩
    else do
      let last ← number high
      if last < first then misuse 1 "invalid decreasing range"
      else pure ⟨first, some last⟩

def chosen {α : Type} (ranges : List PositionRange) (complement : Bool) (items : List α) :
    List α :=
  (items.zipIdx.filter fun entry =>
    ranges.any (·.holds (entry.2 + 1)) != complement).map Prod.fst

def cutOptions : Options where
  alone := "nsz!"
  valued := "bcdfO"
  long := [("bytes", 'b'), ("characters", 'c'), ("delimiter", 'd'), ("fields", 'f'),
    ("only-delimited", 's'), ("complement", '!'), ("output-delimiter", 'O')]
  status := 1
  first := false

def cut (arguments : List String) : Run Nat := do
  let (given, operands) ← cutOptions.read arguments
  let lists := given.filter fun entry => ['b', 'c', 'f'].contains entry.1
  match lists with
  | [] => misuse 1 "you must specify a list of bytes, characters, or fields"
  | _ :: _ :: _ => misuse 1 "only one list may be specified"
  | [(letter, list)] => do
    let isField : Bool := letter = 'f'
    let separator ← match given.last? 'd' with
      | none => pure 9
      | some text =>
        match Text.octets text with
        | [] => pure 0
        | [byte] => pure byte
        | _ => misuse 1 "the delimiter must be a single character"
    if !isField && given.has 'd' then
      misuse 1 "an input delimiter may be specified only when operating on fields"
    if !isField && given.has 's' then
      misuse 1 ("suppressing non-delimited lines makes sense\n\tonly when operating on fields")
    let parts := list.toList.map fun character => if character = ' ' then ',' else character
    let mut ranges : List PositionRange := []
    for part in Text.splitAt ',' parts do
      let range ← rangeOf isField (String.ofList part)
      ranges := ranges ++ [range]
    let complement := given.has '!'
    let joint := ((given.last? 'O').map Text.octets).getD
      (if isField then [separator] else [])
    let shown (line : Bytes) : Option Bytes :=
      if !isField then some (chosen ranges complement line)
      else if line.contains separator then
        some (joint.intercalate (chosen ranges complement (Text.splitAt separator line)))
      else if given.has 's' then none
      else some line
    onEach operands plainComplaint fun _ content =>
      put (ofLines ((bareLines content).filterMap shown))

end ChartManifests.Program.Utility
