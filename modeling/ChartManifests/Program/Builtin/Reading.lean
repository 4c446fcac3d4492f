import ChartManifests.Program.Builtin
/-!
Reading a line into parameters. A backslash takes the meaning from the next character and joins the
next line to this one. The last parameter takes what is left of the line.
-/

namespace ChartManifests.Program.Builtin

open Shell (Mark)

def separates (separators : List Char) (mark : Mark) : Bool :=
  separators.contains mark.1 && !mark.2

def isBlankMark (separators : List Char) (mark : Mark) : Bool :=
  separates separators mark && isFieldBlank mark.1

/-- What is left of a line for the last parameter: blanks at the end do not count, and neither does
a single separator that nothing follows. `cut` counts the characters that may have to go, and
`open_` tells that a blank has ended the field and a separator may follow. -/
def lastLength (separators : List Char) : Bool → Option Nat → Nat → List Mark → Nat
  | _, cut, length, [] => cut.getD length
  | open_, cut, length, mark :: rest =>
    if isBlankMark separators mark then
      lastLength separators open_ (cut.or (some length)) (length + 1) rest
    else
      let kept := if separates separators mark && open_ then cut else none
      lastLength separators false kept (length + 1) rest

def lineFields (separators : List Char) : Nat → List Mark → List String
  | 0, _ => []
  | count + 1, marks =>
    let begun := marks.dropWhile (isBlankMark separators)
    let field := begun.takeWhile fun mark => !separates separators mark
    match begun, begun.drop field.length with
    | [], _ => []
    | _, [] => [fieldText field]
    | _, ending :: rest =>
      let blank := isBlankMark separators ending
      if count = 0 then
        let length := lastLength separators blank (some field.length) (field.length + 1) rest
        [fieldText (begun.take length)]
      else
        let behind := rest.dropWhile (isBlankMark separators)
        let next := match behind with
          | mark :: more => if blank && separates separators mark then more else behind
          | [] => []
        fieldText field :: lineFields separators count (if blank then next else rest)

def unescaped : List Char → List Mark
  | '\\' :: character :: rest => (character, true) :: unescaped rest
  | '\\' :: [] => []
  | character :: rest => (character, false) :: unescaped rest
  | [] => []

def readCharacters (raw : Bool) : Nat → Run (List Mark × Bool)
  | 0 => pure ([], false)
  | bound + 1 => do
    let (bytes, ended) := match ← takeLine 0 with
      | .ok line => line
      | .error _ => ([], false)
    let characters := (Text.charactersOf bytes).filter (· ≠ '\x00')
    if raw then pure (characters.map fun character => (character, false), ended)
    else if ended && Shell.goesOn characters then do
      let (more, isEnded) ← readCharacters raw bound
      pure (unescaped characters.dropLast ++ more, isEnded)
    else pure (unescaped characters, ended)

def longestJoin : Nat := 10000

def read (arguments : List String) : Run Nat := do
  let (given, names) ← options "read" ['r'] ['p'] arguments
  if names.isEmpty then refuse "read" "arg count"
  else
    let raw := given.any fun option => option.1 = 'r'
    let (marks, ended) ← readCharacters raw longestJoin
    let fields := lineFields (separators (← get)) names.length marks
    for (name, index) in names.zipIdx do
      assign "read" name ((fields[index]?).getD "")
    pure (if ended then 0 else 1)

end ChartManifests.Program.Builtin
