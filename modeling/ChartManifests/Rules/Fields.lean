import ChartManifests.Rules.Spelling
import ChartManifests.Text.Split
/-!
Splitting a text: at blanks, at every place where an expression stands for something, or between all
characters.
-/

namespace ChartManifests.Rules

open Text (Expression)

inductive Separator
  | blanks
  | character (value : Char)
  | everywhere
  | expression (value : Expression)
deriving Repr

def separatorOf (text : String) : Except PatternFault Separator :=
  match text.toList with
  | [] => .ok .everywhere
  | [' '] => .ok .blanks
  | [character] => .ok (.character character)
  | _ => (expressionOf text).map .expression

def words : Nat → List Char → List (List Char)
  | 0, _ => []
  | bound + 1, characters =>
    match characters.dropWhile isBlank with
    | [] => []
    | begun =>
      let word := begun.takeWhile fun character => !isBlank character
      word :: words bound (begun.drop word.length)
where
  isBlank (character : Char) : Bool := [' ', '\t', '\n'].contains character

def partsBetween (expression : Expression) : Nat → List Char → List Char → List (List Char)
  | 0, _, characters => [characters]
  | bound + 1, passed, characters =>
    match Expression.findFrom false (fun _ _ => true) expression passed characters with
    | none => [passed.reverse ++ characters]
    | some found =>
      if found.matched.isEmpty then
        match found.after with
        | [] => [passed.reverse ++ characters]
        | next :: rest =>
          partsBetween expression bound (next :: found.before.reverse) rest
      else found.before :: partsBetween expression bound [] found.after

def split (separator : Separator) (text : String) : List String :=
  let characters := text.toList
  match separator with
  | .blanks => (words (characters.length + 1) characters).map String.ofList
  | .everywhere => characters.map fun character => character.toString
  | .character value =>
    if characters.isEmpty then [] else (Text.splitAt value characters).map String.ofList
  | .expression value =>
    if characters.isEmpty then []
    else (partsBetween value (characters.length + 1) [] characters).map String.ofList

def replacement (found : List Char) : List Char → List Char
  | '\\' :: '&' :: rest => '&' :: replacement found rest
  | '\\' :: '\\' :: '&' :: rest => '\\' :: (found ++ replacement found rest)
  | '&' :: rest => found ++ replacement found rest
  | character :: rest => character :: replacement found rest
  | [] => []

/-- Replaces what an expression stands for, the first time or every time, and counts how often.
`passed` is the character in front. An empty place right behind what was replaced stays. -/
def replaceFrom (expression : Expression) (every : Bool) (by_ : List Char) :
    Nat → List Char → Bool → List Char → List Char × Nat
  | 0, _, _, characters => (characters, 0)
  | bound + 1, passed, justReplaced, characters =>
    match Expression.findFrom false (fun _ _ => true) expression passed characters with
    | none => (characters, 0)
    | some found =>
      let skipped := found.before.drop passed.length
      let put := replacement found.matched by_
      if found.matched.isEmpty then
        let here := skipped.isEmpty && justReplaced
        let shown := if here then [] else put
        let counted := if here then 0 else 1
        match found.after with
        | [] => (skipped ++ shown, counted)
        | next :: rest =>
          if !every && !here then (skipped ++ shown ++ next :: rest, 1)
          else
            let (others, count) :=
              replaceFrom expression every by_ bound (next :: found.before.reverse) false rest
            (skipped ++ shown ++ next :: others, count + counted)
      else if !every then (skipped ++ put ++ found.after, 1)
      else
        let reached := found.matched.reverse ++ found.before.reverse
        let (others, count) := replaceFrom expression every by_ bound reached true found.after
        (skipped ++ put ++ others, count + 1)

def substitute (expression : Expression) (every : Bool) (by_ text : String) : String × Nat :=
  let characters := text.toList
  let (result, count) :=
    replaceFrom expression every by_.toList (characters.length + 2) [] false characters
  (String.ofList result, count)

end ChartManifests.Rules
