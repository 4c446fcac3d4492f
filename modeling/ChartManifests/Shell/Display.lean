import ChartManifests.Shell.Grammar
/-!
Words and statements of the rich shell as it shows them itself: in lists of programs, and of
functions.
-/

namespace ChartManifests.Shell

mutual

def Selection.display : Nat → Selection → String
  | 0, _ => ""
  | bound + 1, selection =>
    match selection with
    | .whole => ""
    | .apart => "[@]"
    | .together => "[*]"
    | .one subscript => "[" ++ displayPieces bound false subscript ++ "]"

def displayTreatment (treatment : Treatment) : String :=
  match treatment with
  | .fallback empty => if empty then ":-" else "-"
  | .assignment empty => if empty then ":=" else "="
  | .alternative empty => if empty then ":+" else "+"
  | .demand empty => if empty then ":?" else "?"
  | .trimStart longest => if longest then "##" else "#"
  | .trimEnd longest => if longest then "%%" else "%"
  | .slice _ => ":"
  | .replacement .first => "/"
  | .replacement .every => "//"
  | .replacement .beginning => "/#"
  | .replacement .ending => "/%"
  | .recased .upper every => if every then "^^" else "^"
  | .recased .lower every => if every then ",," else ","
  | .recased .toggled every => if every then "~~" else "~"
  | .names => "@"
  | .described aspect => "@" ++ String.singleton aspect
  | _ => ""

def displayPiece : Nat → Bool → Piece → String
  | 0, _, _ => ""
  | bound + 1, inQuotes, piece =>
    let between (quoted : Bool) (text : String) : String :=
      if quoted && !inQuotes then "\"" ++ text ++ "\"" else text
    match piece with
    | .text characters quoted => between quoted (String.ofList characters)
    | .parameter (.mk name indirect selection) treatment word second quoted =>
      let isPlain := treatment matches .plain
      let isLength := treatment matches .length
      let isBare := isPlain && !indirect && (selection matches .whole)
        && (name.length = 1 || !(name.toList.head?.map Char.isDigit).getD false)
      if treatment matches .improper then between quoted name
      else if isBare then between quoted ("$" ++ name)
      else
        let behind := if treatment matches .replacement _ then "/" else ":"
        between quoted ("$\x7b" ++ (if isLength then "#" else if indirect then "!" else "") ++ name
          ++ selection.display bound ++ displayTreatment treatment
          ++ displayPieces bound quoted word
          ++ (if second.isEmpty then "" else behind ++ displayPieces bound quoted second) ++ "\x7d")
    | .output _ quoted => between quoted "$(...)"
    | .number expression quoted =>
      between quoted ("$((" ++ displayPieces bound true expression ++ "))")
    | .items _ => "(...)"
    | .channel reads _ => (if reads then "<" else ">") ++ "(...)"

def displayPieces : Nat → Bool → List Piece → String
  | 0, _, _ => ""
  | _ + 1, _, [] => ""
  | bound + 1, inQuotes, piece :: rest =>
    displayPiece bound inQuotes piece ++ displayPieces bound inQuotes rest

end

def displayBound : Nat := 10000

def displayWord (word : Word) : String := displayPieces displayBound false word

def Statement.display : Statement → String
  | .simple _ _ words _ => " ".intercalate (words.map displayWord)
  | _ => ""

end ChartManifests.Shell
