import ChartManifests.Host.Files
import ChartManifests.Program.Field
/-!
Paths by patterns. A pattern of paths is a pattern of names between slashes, and a name that begins
with a dot is only meant by a pattern that spells the dot. A pattern that leads to nothing stands
for itself.
-/

namespace ChartManifests.Program

open Shell (Mark)

/-- How paths are looked for: whether there are groups in patterns, whether names that begin with a
dot are like others, whether the two names that every directory has count, whether letters are told
from each other by their size, and whether two stars stand for directories below each other. -/
structure PathManner where
  groups : Bool
  hidden : Bool
  dots : Bool
  folds : Bool
  deep : Bool
deriving DecidableEq, Repr

namespace PathManner

def plain : PathManner := ⟨false, false, true, false, false⟩

def pattern (manner : PathManner) (marks : List Mark) : List Shell.Glyph :=
  let shown := if manner.folds then marks.map fun mark => (mark.1.toLower, mark.2) else marks
  if manner.groups then Shell.groupPatternOf shown else Shell.patternOf shown

def isOpen (manner : PathManner) (marks : List Mark) : Bool :=
  (manner.pattern marks).any fun glyph => match glyph with
    | .exactly _ => false
    | _ => true

def admitsName (manner : PathManner) (marks : List Mark) (name : String) : Bool :=
  let characters := if manner.folds then name.toList.map Char.toLower else name.toList
  (name.toList.head? ≠ some '.' || marks.head?.map Prod.fst = some '.'
      || (manner.hidden && name ≠ "." && name ≠ ".."))
    && Shell.fits (manner.pattern marks) characters

def isDeep (manner : PathManner) (marks : List Mark) : Bool :=
  manner.deep && marks = [('*', false), ('*', false)]

end PathManner

def namePatterns : List Mark → List (List Mark)
  | [] => [[]]
  | mark :: rest =>
    match namePatterns rest with
    | [] => [[mark]]
    | first :: others =>
      if mark.1 = Files.separator then [] :: first :: others else (mark :: first) :: others

def namesBelow (manner : PathManner) (files : Files) (current : Location) (path : String)
    (marks : List Mark) : List String :=
  match files.find current (if path = "" then "." else path) with
  | .ok (location, .directory) =>
    let own := if manner.dots then [".", ".."] else []
    (own ++ files.namesIn location).filter (manner.admitsName marks)
  | _ => []

def deepestDirectory : Nat := 64

/-- The paths of what is below a path, each behind the directory that it is in; with directories
only, each with a slash at its end. -/
def pathsBelow (manner : PathManner) (files : Files) (current : Location) (foldersOnly : Bool) :
    Nat → String → List String
  | 0, _ => []
  | bound + 1, path =>
    (namesBelow { manner with dots := false } files current path [('*', false)]).flatMap fun name =>
      let whole := path ++ name
      match files.find current whole with
      | .ok (_, .directory) =>
        (if foldersOnly then whole ++ "/" else whole)
          :: pathsBelow manner files current foldersOnly bound (whole ++ "/")
      | _ => if foldersOnly then [] else [whole]

def pathsFrom (manner : PathManner) (files : Files) (current : Location) :
    String → List (List Mark) → List String
  | _, [] => []
  | path, [marks] =>
    if manner.isDeep marks then
      (if path = "" then [] else [path])
        ++ pathsBelow manner files current false deepestDirectory path
    else if manner.isOpen marks then
      (namesBelow manner files current path marks).map (path ++ ·)
    else
      let whole := path ++ fieldText marks
      if (files.find current whole).toOption.isSome then [whole] else []
  | path, marks :: rest =>
    let beginnings :=
      if manner.isDeep marks then
        path :: pathsBelow manner files current true deepestDirectory path
      else
        let names := if manner.isOpen marks then namesBelow manner files current path marks
          else [fieldText marks]
        names.map fun name => path ++ name ++ "/"
    beginnings.flatMap fun beginning => pathsFrom manner files current beginning rest

def foundPaths (manner : PathManner) (files : Files) (current : Location) (field : List Mark) :
    Option (List String) :=
  let patterns := namePatterns field
  if patterns.any manner.isOpen then
    some ((pathsFrom manner files current "" patterns).mergeSort fun left right => left ≤ right)
  else none

def pathsOf (files : Files) (current : Location) (field : List Mark) : List String :=
  match foundPaths .plain files current field with
  | none | some [] => [fieldText field]
  | some found => found

end ChartManifests.Program
