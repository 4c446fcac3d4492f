import ChartManifests.Text.CharacterClass
/-!
Patterns of the shell: `*` stands for any text, `?` for any character, brackets for a set of
characters, and everything else for itself.
-/

namespace ChartManifests.Shell

open Text (Member)

inductive Occurrence
  | optional
  | anyNumber
  | atLeastOnce
  | once
  | excluded
deriving DecidableEq, Repr

inductive Glyph
  | anything
  | anyOne
  | exactly (character : Char)
  | oneOf (negated : Bool) (members : List Member)
  | group (occurrence : Occurrence) (alternatives : List (List Glyph))
deriving Repr

def Glyph.admits (character : Char) : Glyph → Bool
  | anything => true
  | anyOne => true
  | exactly wanted => character = wanted
  | oneOf negated members => (members.any (·.admits character)) != negated
  | group _ _ => false

def Glyph.behind? (glyph : Glyph) : List Char → Option (List Char)
  | character :: rest => if glyph.admits character then some rest else none
  | [] => none

def Occurrence.ofMark? : Char → Option Occurrence
  | '?' => some .optional
  | '*' => some .anyNumber
  | '+' => some .atLeastOnce
  | '@' => some .once
  | '!' => some .excluded
  | _ => none

abbrev Mark := Char × Bool

def membersOf : Nat → Bool → List Mark → Option (List Member × List Mark)
  | 0, _, _ => none
  | _ + 1, _, [] => none
  | bound + 1, first, (character, quoted) :: rest =>
    if character = ']' && !quoted && !first then some ([], rest)
    else
      match character, quoted, rest with
      | '[', false, (':', false) :: more =>
        let name := (more.takeWhile fun mark => mark.1 ≠ ':').map Prod.fst
        (membersOf bound false (more.drop (name.length + 2))).map fun (members, after) =>
          (.classOf (String.ofList name) :: members, after)
      | _, _, ('-', false) :: (high, isQuoted) :: more =>
        if high = ']' && !isQuoted then
          (membersOf bound false rest).map fun (members, after) =>
            (.range character character :: members, after)
        else
          (membersOf bound false more).map fun (members, after) =>
            (.range character high :: members, after)
      | _, _, _ =>
        (membersOf bound false rest).map fun (members, after) =>
          (.range character character :: members, after)

def alternativesOf : Nat → List Mark → Option (List (List Mark) × List Mark)
  | _, [] => none
  | depth, mark :: rest =>
    let goOn (depth : Nat) : Option (List (List Mark) × List Mark) :=
      (alternativesOf depth rest).map fun (found, after) =>
        match found with
        | first :: others => ((mark :: first) :: others, after)
        | [] => ([[mark]], after)
    match depth, mark with
    | depth, ('(', false) => goOn (depth + 1)
    | depth + 1, (')', false) => goOn depth
    | 0, (')', false) => some ([[]], rest)
    | 0, ('|', false) => (alternativesOf 0 rest).map fun (found, after) => ([] :: found, after)
    | depth, _ => goOn depth

def glyphsOf (grouping : Bool) : Nat → List Mark → List Glyph
  | 0, _ => []
  | _ + 1, [] => []
  | bound + 1, (character, true) :: rest => .exactly character :: glyphsOf grouping bound rest
  | bound + 1, (character, false) :: rest =>
    let group : Option (List Glyph) :=
      match grouping, Occurrence.ofMark? character, rest with
      | true, some occurrence, ('(', false) :: inner =>
        (alternativesOf 0 inner).map fun (found, after) =>
          .group occurrence (found.map (glyphsOf grouping bound)) :: glyphsOf grouping bound after
      | _, _, _ => none
    match group, character with
    | some glyphs, _ => glyphs
    | none, '*' => .anything :: glyphsOf grouping bound rest
    | none, '?' => .anyOne :: glyphsOf grouping bound rest
    | none, '[' =>
      let negated := match rest with
        | (character, false) :: _ => character = '!' || character = '^'
        | _ => false
      match membersOf (rest.length + 1) true (if negated then rest.drop 1 else rest) with
      | some (members, after) => .oneOf negated members :: glyphsOf grouping bound after
      | none => .exactly '[' :: glyphsOf grouping bound rest
    | none, character => .exactly character :: glyphsOf grouping bound rest

def patternOf (marks : List Mark) : List Glyph :=
  glyphsOf false (marks.length + 1) marks

def groupPatternOf (marks : List Mark) : List Glyph :=
  glyphsOf true (marks.length + 1) marks

def distinctEnds (texts : List (List Char)) : List (List Char) :=
  texts.foldr (fun text kept =>
    if kept.any fun other => other.length = text.length then kept else text :: kept) []

def endsOf : List Char → List (List Char)
  | [] => [[]]
  | character :: rest => (character :: rest) :: endsOf rest

def longer (longest text : List Char) : List Char :=
  if longest.length ≤ text.length then text else longest

mutual

def leftBehind : Nat → Glyph → List (List Char) → List (List Char)
  | 0, _, _ => []
  | bound + 1, glyph, texts =>
    match glyph with
    | .anything =>
      if texts.isEmpty then [] else endsOf (texts.foldl longer [])
    | .group occurrence alternatives =>
      let once (texts : List (List Char)) : List (List Char) :=
        leftOfAny bound alternatives texts
      match occurrence with
      | .once => once texts
      | .optional => distinctEnds (texts ++ once texts)
      | .anyNumber => repeated bound alternatives texts texts
      | .atLeastOnce => repeated bound alternatives (once texts) (once texts)
      | .excluded => distinctEnds (texts.flatMap fun text =>
        let taken := once [text]
        (endsOf text).filter fun left => !taken.any fun other => other.length = left.length)
    | glyph => texts.filterMap glyph.behind?

def leftOf : Nat → List Glyph → List (List Char) → List (List Char)
  | 0, _, _ => []
  | _ + 1, [], texts => texts
  | bound + 1, glyph :: rest, texts =>
    if texts.isEmpty then [] else leftOf bound rest (leftBehind bound glyph texts)

def leftOfAny : Nat → List (List Glyph) → List (List Char) → List (List Char)
  | 0, _, _ => []
  | _ + 1, [], _ => []
  | bound + 1, pattern :: others, texts =>
    distinctEnds (leftOf bound pattern texts ++ leftOfAny bound others texts)

/-- What may be left behind alternatives that occur again and again: of the texts that are new, and
all those that were found. -/
def repeated : Nat → List (List Glyph) → List (List Char) → List (List Char) → List (List Char)
  | 0, _, _, found => found
  | bound + 1, alternatives, fresh, found =>
    let more := (leftOfAny bound alternatives fresh).filter fun text =>
      !found.any fun other => other.length = text.length
    if more.isEmpty then found else repeated bound alternatives more (distinctEnds (found ++ more))

end

mutual

def glyphDepth : Glyph → Nat
  | .group _ alternatives => 2 + listDepth alternatives
  | _ => 1

def patternDepth : List Glyph → Nat
  | [] => 1
  | glyph :: rest => 1 + glyphDepth glyph + patternDepth rest

def listDepth : List (List Glyph) → Nat
  | [] => 1
  | pattern :: rest => 1 + patternDepth pattern + listDepth rest

end

def leftovers (pattern : List Glyph) (characters : List Char) : List (List Char) :=
  leftOf (patternDepth pattern * (characters.length + 2) + 1) pattern [characters]

def fits (pattern : List Glyph) (characters : List Char) : Bool :=
  (leftovers pattern characters).any List.isEmpty

def trimStart (longest : Bool) (pattern : List Glyph) (characters : List Char) : List Char :=
  let lengths := (leftovers pattern characters).map List.length
  let left := if longest then lengths.min? else lengths.max?
  characters.drop (characters.length - left.getD characters.length)

def trimEnd (longest : Bool) (pattern : List Glyph) (characters : List Char) : List Char :=
  let lengths := List.range (characters.length + 1)
  let found := (if longest then lengths else lengths.reverse).find? fun length =>
    fits pattern (characters.drop length)
  characters.take (found.getD characters.length)

end ChartManifests.Shell
