import ChartManifests.Shell.Cursor
/-!
Documents in scripts: the lines behind the current one, up to a delimiter. The current line ends
where no quote, no brace and no output of statements is open.
-/

namespace ChartManifests.Shell

def delimiterText (word : Word) : String :=
  String.ofList (word.flatMap fun piece => match piece with
    | .text characters _ => characters
    | .parameter (.mk name _ _) _ _ _ _ => '$' :: name.toList
    | _ => [])

def isQuotedDelimiter (word : Word) : Bool :=
  word.any fun piece => match piece with
    | .text _ quoted => quoted
    | _ => false

inductive Enclosure
  | quotes
  | braces
  | statements
  | backquotes
deriving DecidableEq, Repr

def enclosuresAfter : List Enclosure → Char → List Enclosure
  | .quotes :: rest, '"' => rest
  | open_, '"' => .quotes :: open_
  | .braces :: rest, '}' => rest
  | .statements :: rest, ')' => rest
  | .statements :: rest, '(' => .statements :: .statements :: rest
  | .backquotes :: rest, '`' => rest
  | open_, '`' => .backquotes :: open_
  | open_, _ => open_

/-- How far the scan of a line is: in ordinary text, in single quotes, or in a comment. `fresh`
tells that a word could begin. -/
inductive Scan
  | text (fresh : Bool)
  | single
  | comment
deriving DecidableEq, Repr

def restOfLine : Scan → List Enclosure → List Char → List Char × List Char
  | _, _, [] => ([], [])
  | .single, open_, character :: rest =>
    let (taken, after) :=
      restOfLine (if character = '\'' then .text false else .single) open_ rest
    (character :: taken, after)
  | .text _, open_, '\\' :: character :: rest =>
    let (taken, after) := restOfLine (.text false) open_ rest
    ('\\' :: character :: taken, after)
  | .text _, open_, '$' :: '(' :: rest =>
    let (taken, after) := restOfLine (.text true) (.statements :: open_) rest
    ('$' :: '(' :: taken, after)
  | .text _, open_, '$' :: '{' :: rest =>
    let (taken, after) := restOfLine (.text false) (.braces :: open_) rest
    ('$' :: '{' :: taken, after)
  | scan, open_, character :: rest =>
    if character = '\n' ∧ open_.isEmpty then ([], rest)
    else
      let inComment := scan = .comment ∧ character ≠ '\n'
      let opensSingle := character = '\'' ∧ !open_.contains .quotes
      let opensComment := character = '#' ∧ scan = .text true ∧ open_.head? ≠ some .quotes
      let next : Scan := if inComment ∨ opensComment then .comment
        else if opensSingle then .single else .text (endsWord character)
      let open_ := if inComment then open_ else enclosuresAfter open_ character
      let (taken, after) := restOfLine next open_ rest
      (character :: taken, after)

def goesOn (characters : List Char) : Bool :=
  (characters.reverse.takeWhile (· = '\\')).length % 2 = 1

/-- The lines of a document up to its delimiter, and what follows them, if the delimiter is there. A
line that goes on in the next one, as `joins` allows, hides what stands at the beginning of that. -/
def documentLines (delimiter : List Char) (tabs joins : Bool) :
    Bool → List (List Char) → List (List Char) × Option (List (List Char))
  | _, [] => ([], none)
  | continued, line :: rest =>
    let shown := if tabs && !continued then line.dropWhile (· = '\t') else line
    if shown = delimiter && !continued then ([], some rest)
    else
      let (taken, after) := documentLines delimiter tabs joins (joins && goesOn line) rest
      (shown :: taken, after)

def joinedLines (lines : List (List Char)) : List Char := lines.flatMap (· ++ ['\n'])

/-- Takes a document out of the text behind the current line. Without its delimiter it reaches as
far as the text does. -/
def takeDocument (delimiter : List Char) (tabs joins : Bool) (cursor : Cursor) :
    List Char × Cursor :=
  let (line, below) := restOfLine (.text false) [] cursor.rest
  let lines := Text.splitAt '\n' below
  match documentLines delimiter tabs joins false lines with
  | (body, some after) =>
    let remaining := if after.isEmpty then [] else '\n' :: ['\n'].intercalate after
    (joinedLines body,
      { cursor with
        rest := line ++ (if after.isEmpty then ['\n'] else remaining)
        skipped := cursor.skipped + lines.length - after.length })
  | (body, none) =>
    let skipped := cursor.skipped + lines.length - (if below.getLast? = some '\n' then 1 else 0)
    let note := (cursor.line + skipped, cursor.line, String.ofList delimiter)
    (['\n'].intercalate body,
      { cursor with
        rest := line ++ ['\n']
        skipped
        openDocuments := cursor.openDocuments ++ [note] })

end ChartManifests.Shell
