import ChartManifests.Program.Utility.Tree
import ChartManifests.Shell.Pattern
import ChartManifests.Text.Utf8
import ChartManifests.Text.Expression.Reader
/-!
The utility that looks for lines with a part that a regular expression stands for, and tells which
they are, how many, or in which files.
-/

namespace ChartManifests.Program.Utility

open Text (Bytes Expression)

def searchUsage : String :=
  "Usage: grep [OPTION]... PATTERNS [FILE]...\nTry 'grep --help' for more information."

def searchOptions : Options where
  alone := "EFGPabchHiIlLnoqrRsTuUvVwxyzZ0123456789"
  valued := "ABCdDefm!#%&"
  long := [("extended-regexp", 'E'), ("fixed-strings", 'F'), ("basic-regexp", 'G'),
    ("perl-regexp", 'P'), ("text", 'a'), ("byte-offset", 'b'), ("count", 'c'),
    ("no-filename", 'h'), ("with-filename", 'H'), ("ignore-case", 'i'),
    ("files-with-matches", 'l'), ("files-without-match", 'L'), ("line-number", 'n'),
    ("only-matching", 'o'), ("quiet", 'q'), ("silent", 'q'), ("recursive", 'r'),
    ("no-messages", 's'), ("invert-match", 'v'), ("word-regexp", 'w'), ("line-regexp", 'x'),
    ("null", 'Z'), ("after-context", 'A'), ("before-context", 'B'), ("context", 'C'),
    ("regexp", 'e'), ("file", 'f'), ("max-count", 'm'), ("include", '!'), ("exclude", '#'),
    ("label", '%'), ("color", '&'), ("colour", '&')]
  status := 2
  first := false
  usage := searchUsage

structure LineSearch where
  expression : Expression
  folds : Bool
  inverted : Bool
  wholeWords : Bool
deriving Repr

def LineSearch.find (search : LineSearch) (passed text : List Char) :
    Option Expression.Found :=
  let isWord (character : Option Char) : Bool := character.any Expression.isWordCharacter
  Expression.findFrom search.folds (fun before place =>
    !search.wholeWords || (!isWord before && !isWord place.rest.head?)) search.expression passed
    text

def LineSearch.parts (search : LineSearch) : Nat → List Char → List Char → List (Nat × List Char)
  | 0, _, _ => []
  | bound + 1, passed, text =>
    match search.find passed text with
    | none => []
    | some found =>
      if found.matched.isEmpty then
        match found.after with
        | next :: rest =>
          search.parts bound (next :: found.before.reverse) rest
        | [] => []
      else
        (found.before.length, found.matched)
          :: search.parts bound ((found.before ++ found.matched).reverse) found.after

def LineSearch.isChosen (search : LineSearch) (line : Bytes) : Bool :=
  (search.find [] (Text.charactersOf line)).isSome != search.inverted

def patternOf (extended fixed : Bool) (wholeLines : Bool) (patterns : List (List Char)) :
    Except Expression.Fault Expression := do
  let read (pattern : List Char) : Except Expression.Fault Expression :=
    if fixed then .ok (Expression.ofText pattern)
    else (Expression.read (if extended then .lenient else .basic) pattern).map Prod.fst
  let rec alternatives : List (List Char) → Except Expression.Fault Expression
    | [] => .ok (.oneOf false [])
    | [pattern] => read pattern
    | pattern :: others => do
      let first ← read pattern
      let second ← alternatives others
      .ok (.either first second)
  let expression ← alternatives patterns
  .ok (if wholeLines then .both (.edge .start) (.both expression (.edge .finish)) else expression)

def withDigitClasses : List Char → List Char
  | '\\' :: 'd' :: rest => "[0-9]".toList ++ withDigitClasses rest
  | '\\' :: 'D' :: rest => "[^0-9]".toList ++ withDigitClasses rest
  | '\\' :: character :: rest => '\\' :: character :: withDigitClasses rest
  | character :: rest => character :: withDigitClasses rest
  | [] => []

structure SearchStyle where
  given : Given
  named : Bool
  before : Nat
  after : Nat
  limit : Option Nat

def SearchStyle.opening (style : SearchStyle) (name : String) (mark : String) (number place : Nat) :
    String :=
  let nameMark := if style.given.has 'Z' then "\x00" else mark
  (if style.named then name ++ nameMark else "")
    ++ (if style.given.has 'n' then toString number ++ mark else "")
    ++ (if style.given.has 'b' then toString place ++ mark else "")

structure SearchedLine where
  number : Nat
  place : Nat
  content : Bytes
  isChosen : Bool
deriving Repr

def LineSearch.classify (search : LineSearch) (limit : Option Nat) :
    Nat → Nat → List Bytes → List SearchedLine
  | _, _, [] => []
  | number, place, line :: rest =>
    if limit = some 0 then
      ⟨number, place, line, false⟩
        :: search.classify limit (number + 1) (place + line.length + 1) rest
    else
      let isChosen := search.isChosen line
      let left := if isChosen then limit.map (· - 1) else limit
      ⟨number, place, line, isChosen⟩
        :: search.classify left (number + 1) (place + line.length + 1) rest

def shownLines (before after : Nat) (lines : List SearchedLine) : List SearchedLine :=
  let chosen := (lines.filter SearchedLine.isChosen).map SearchedLine.number
  if before = 0 ∧ after = 0 then lines.filter SearchedLine.isChosen
  else
    lines.filter fun line => chosen.any fun number =>
      line.number ≤ number + after && number ≤ line.number + before

def SearchStyle.text (style : SearchStyle) (search : LineSearch) (name : String) :
    Option Nat → List SearchedLine → Bytes
  | _, [] => []
  | last, line :: rest =>
    let hasContext := 0 < style.before + style.after
    let gap := hasContext && last.any fun number => number + 1 < line.number
    let opening (place : Nat) : Bytes := Text.octets
      (style.opening name (if line.isChosen then ":" else "-") line.number place)
    let body := if style.given.has 'o' then
        if line.isChosen && !search.inverted then
          (search.parts (line.content.length + 1) [] (Text.charactersOf line.content)).flatMap
            fun (offset, part) =>
              opening (line.place + offset) ++ Text.ofCharacters part ++ [10]
        else []
      else opening line.place ++ line.content ++ [10]
    (if gap then [45, 45, 10] else []) ++ body ++ style.text search name (some line.number) rest

/-- Looks for lines in the bytes of a file, and shows them; tells whether there are any. `follows`
tells that lines of another file have been shown. -/
def searchIn (search : LineSearch) (style : SearchStyle) (name : String) (follows : Bool)
    (content : Bytes) : Run Bool := do
  let lines := search.classify style.limit 1 0 (bareLines content)
  let count := (lines.filter SearchedLine.isChosen).length
  let found : Bool := 0 < count
  let ending := if style.given.has 'Z' then "\x00" else "\n"
  if style.given.has 'q' then pure ()
  else if style.given.has 'l' then
    if found then putText (name ++ ending)
  else if style.given.has 'L' then
    if !found then putText (name ++ ending)
  else if style.given.has 'c' then
    putText ((if style.named then name ++ (if style.given.has 'Z' then "\x00" else ":") else "")
      ++ toString count ++ "\n")
  else if found && content.contains 0 && !style.given.has 'a' then
    complain (name ++ ": binary file matches")
  else do
    if follows && found && 0 < style.before + style.after then putText "--\n"
    put (style.text search name none (shownLines style.before style.after lines))
  pure found

/-- The files below a directory, with their paths. Links are passed over unless they are followed,
and one that leads back to where it stands always is. -/
def filesBelow (files : Files) (follows : Bool) : Nat → String → Location → List String
  | 0, _, _ => []
  | bound + 1, path, location =>
    (files.namesIn location).flatMap fun name =>
      let inner := location ++ [name]
      let innerPath := if path = "" then name else joinPath path name
      match files.standing? inner with
      | some .directory => filesBelow files follows bound innerPath inner
      | some (.link _) =>
        match follows, files.find [] (Files.pathTo inner) with
        | true, .ok (target, .directory) =>
          if target.isPrefixOf inner then []
          else filesBelow files follows bound innerPath target
        | true, .ok _ => [innerPath]
        | _, _ => []
      | some (.device _) | some .queue | none => []
      | some _ => [innerPath]

def isIncluded (given : Given) (path : String) : Bool :=
  let name := (baseName path "").toList
  let fits (text : String) : Bool :=
    Shell.fits (Shell.patternOf (text.toList.map fun character => (character, false))) name
  let values (letter : Char) : List String :=
    (given.filter fun entry => entry.1 = letter).map Prod.snd
  (values '!').isEmpty || (values '!').any fits

def grepWith (kind : Option Char) (arguments : List String) : Run Nat := do
  let (given, operands) ← searchOptions.read arguments
  let number (letter : Char) (complaint : String → String) : Run (Option Nat) := do
    match given.last? letter with
    | none => pure none
    | some text =>
      match text.toNat? with
      | some number => pure (some number)
      | none => fail 2 (complaint text)
  let context (text : String) : String := text ++ ": invalid context length argument"
  let after ← number 'A' context
  let before ← number 'B' context
  let both ← number 'C' context
  let shorthand := (String.ofList ((given.filter fun entry => entry.1.isDigit).map Prod.fst)).toNat?
  let limit ← number 'm' fun _ => "invalid max count"
  let mut patterns : List (List Char) := []
  for entry in given do
    if entry.1 = 'e' then
      patterns := patterns ++ Text.splitAt '\n' entry.2.toList
    else if entry.1 = 'f' then
      match ← contentOf entry.2 with
      | .ok content => patterns := patterns ++ (bareLines content).map Text.charactersOf
      | .error fault => fail 2 (plainComplaint entry.2 fault)
  let hasPatterns := given.has 'e' || given.has 'f'
  let paths := if hasPatterns then operands else operands.drop 1
  if !hasPatterns then
    match operands with
    | [] => do
      writeText 2 (searchUsage ++ "\n")
      throw (.exited 2)
    | pattern :: _ => patterns := Text.splitAt '\n' pattern.toList
  let asked := (given.lastOf? ['E', 'F', 'G', 'P']).or kind
  let spelled := if asked = some 'P' then patterns.map withDigitClasses else patterns
  let extended : Bool := asked = some 'E' || asked = some 'P'
  match patternOf extended (asked = some 'F') (given.has 'x') spelled with
  | .error fault => fail 2 fault.message
  | .ok expression => do
    let search : LineSearch := ⟨expression, given.has 'i' || given.has 'y', given.has 'v',
      given.has 'w' && !given.has 'x'⟩
    let recursive := given.has 'r' || given.has 'R'
    let state ← get
    let sources := if paths.isEmpty then (if recursive then [""] else ["-"]) else paths
    let expanded := sources.flatMap fun path =>
      match state.files.find state.current (if path = "" then "." else path) with
      | .ok (location, .directory) =>
        if recursive then
          ((filesBelow state.files (given.has 'R') state.files.places.length path location).filter
            (isIncluded given)).map fun inner => (inner, true)
        else [(path, false)]
      | _ => [(path, false)]
    let named := given.lastOf? ['h', 'H'] = some 'H' ||
      (given.lastOf? ['h', 'H'] ≠ some 'h' && (1 < sources.length || expanded.any Prod.snd
        || (recursive && paths.isEmpty)))
    let style : SearchStyle := ⟨given, named, (before.or (both.or shorthand)).getD 0,
      (after.or (both.or shorthand)).getD 0, limit⟩
    let mut found := false
    let mut faulty := false
    for (path, _) in expanded do
      if !(given.has 'q' && found) then
        match ← contentOf path with
        | .ok content => do
          let name := if path = "-" then (given.last? '%').getD "(standard input)" else path
          let here ← searchIn search style name found content
          found := found || here
          if here && (given.has 'q' || limit.isSome) then
            modify fun state => { state with flooded := false }
        | .error fault => do
          if !given.has 's' then complain (plainComplaint path fault)
          faulty := true
    pure (if faulty && !(given.has 'q' && found) then 2 else if found then 0 else 1)

end ChartManifests.Program.Utility
