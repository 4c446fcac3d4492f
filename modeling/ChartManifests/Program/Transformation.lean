import ChartManifests.Program.Items
import ChartManifests.Program.Requoting
import ChartManifests.Program.Substitution
import ChartManifests.Shell.Escaped
/-!
What the rich shell does with the values of parameters: parts of them, other texts in place of what
a pattern stands for, letters changed, and what is known of a parameter.
-/

namespace ChartManifests.Program

open Shell (Glyph Mark)

/-- A part of a text: what is left out in front, and how much is taken; a length below zero counts
from the end. `none` if the end comes before the beginning. -/
def sliceOfText (offset : Int) (length? : Option Int) (characters : List Char) :
    Option (List Char) :=
  let size : Int := characters.length
  let start := if offset < 0 then size + offset else offset
  if start < 0 || size < start then
    some []
  else
    match length? with
    | none => some (characters.drop start.toNat)
    | some length =>
      let finish := if length < 0 then size + length else min size (start + length)
      if finish < start then (if length < 0 then none else some [])
      else some ((characters.take finish.toNat).drop start.toNat)

def sliceOfItems (behind : Nat) (offset : Int) (length? : Option Int)
    (items : List (Nat × String)) : Option (List String) :=
  let start := if offset < 0 then (behind : Int) + offset else offset
  if start < 0 then some []
  else
    let left := (items.filter fun item => start ≤ (item.1 : Int)).map Prod.snd
    match length? with
    | none => some left
    | some length => if length < 0 then none else some (left.take length.toNat)

def longestStart? (pattern : List Glyph) (characters : List Char) : Option Nat :=
  ((Shell.leftovers pattern characters).map List.length).min?.map (characters.length - ·)

def inserted (recalls : Bool) (instead : List Mark) (found : List Char) : List Char :=
  let rec go : List Mark → List Char
    | [] => []
    | ('\\', false) :: ('&', false) :: rest =>
      if recalls then '&' :: go rest else '\\' :: '&' :: go rest
    | ('&', false) :: rest => if recalls then found ++ go rest else '&' :: go rest
    | (character, _) :: rest => character :: go rest
  go instead

def replaceFrom (recalls : Bool) (pattern : List Glyph) (instead : List Mark) (every : Bool) :
    Nat → List Char → List Char
  | 0, characters => characters
  | bound + 1, characters =>
    match longestStart? pattern characters, characters with
    | some (length + 1), _ =>
      let rest := characters.drop (length + 1)
      inserted recalls instead (characters.take (length + 1))
        ++ (if every then replaceFrom recalls pattern instead every bound rest else rest)
    | _, character :: rest =>
      character :: replaceFrom recalls pattern instead every bound rest
    | _, [] => []

def replaced (recalls : Bool) (scope : Shell.Scope) (pattern : List Glyph) (instead : List Mark)
    (characters : List Char) : List Char :=
  match scope with
  | .first =>
    if pattern.isEmpty then characters
    else replaceFrom recalls pattern instead false (characters.length + 1) characters
  | .every =>
    if pattern.isEmpty then characters
    else replaceFrom recalls pattern instead true (characters.length + 1) characters
  | .beginning =>
    match longestStart? pattern characters with
    | some length => inserted recalls instead (characters.take length) ++ characters.drop length
    | none => characters
  | .ending =>
    let kept := Shell.trimEnd true pattern characters
    let fits := Shell.fits pattern (characters.drop kept.length)
    if fits then kept ++ inserted recalls instead (characters.drop kept.length) else characters

def recasedLetter (letters : Shell.Recasing) (character : Char) : Char :=
  match letters with
  | .upper => character.toUpper
  | .lower => character.toLower
  | .toggled => if character.isUpper then character.toLower else character.toUpper

def recased (letters : Shell.Recasing) (every : Bool) (pattern : List Glyph)
    (characters : List Char) : List Char :=
  let admits (character : Char) : Bool := pattern.isEmpty || Shell.fits pattern [character]
  let changed (character : Char) : Char :=
    if admits character then recasedLetter letters character else character
  match characters with
  | [] => []
  | first :: rest => changed first :: (if every then rest.map changed else rest)

def Parameter.attributes (parameter : Parameter) : String :=
  let letter (holds : Bool) (name : String) : String := if holds then name else ""
  letter (match parameter.content with
    | some (.list _) => true
    | _ => false) "a"
    ++ letter (match parameter.content with
      | some (.table _) => true
      | _ => false) "A"
    ++ letter parameter.integer "i" ++ letter parameter.refers "n" ++ letter parameter.fixed "r"
    ++ letter parameter.exported "x" ++ letter (parameter.letters = .lower) "l"
    ++ letter (parameter.letters = .upper) "u"

def Parameter.declaration (parameter : Parameter) (content? : Option Content) : String :=
  let marks := parameter.attributes
  let content? := if parameter.blank then none else content?
  "declare " ++ (if marks = "" then "--" else "-" ++ marks) ++ " " ++ parameter.name
    ++ (match content? with
      | some (.text value) => "=" ++ Requoting.declared value
      | some (.list items) =>
        "=" ++ Requoting.items (items.map fun item => (toString item.1, item.2)) false
      | some (.table items) => "=" ++ Requoting.items (Content.inDrawers items) true
      | none => "")

def Parameter.listed (parameter : Parameter) : Option String :=
  if parameter.blank then none
  else
    parameter.content.map fun content => parameter.name ++ "=" ++ (match content with
      | .text value => Requoting.listed value
      | .list items => Requoting.items (items.map fun item => (toString item.1, item.2)) false
      | .table items => Requoting.items (Content.inDrawers items) true)

def transformed (aspect : Char) (value : String) : String :=
  match aspect with
  | 'Q' | 'K' => Requoting.reusable value
  | 'E' => String.ofList (Shell.Escaped.decode value.toList)
  | 'U' => String.ofList (value.toList.map Char.toUpper)
  | 'L' => String.ofList (value.toList.map Char.toLower)
  | 'u' => String.ofList (recased .upper false [] value.toList)
  | _ => value

end ChartManifests.Program
