import ChartManifests.Text.CodePoint
import ChartManifests.Text.Split
/-!
Paths as text: a root, if there is one, and the names that lead on from it. Empty names and single
dots are dropped when a path is read, so two spellings of a path have one value. Double dots are
kept: what they lead to depends on the file system.
-/

namespace ChartManifests

/-- Where a path starts: at the working directory, at the root, or at the other root that two
slashes name. -/
inductive Origin
  | relative
  | root
  | doubleRoot
deriving DecidableEq, Repr

structure Path where
  origin : Origin
  names : List Text
deriving DecidableEq, Repr

namespace Path

def slash : CodePoint := '/'

def dot : CodePoint := '.'

def isName (part : Text) : Bool := part ≠ [] && part ≠ [dot]

def originOf (text : Text) : Origin :=
  match text.takeWhile (· = slash) with
  | [] => .relative
  | [_, _] => .doubleRoot
  | _ => .root

def ofText (text : Text) : Path :=
  ⟨originOf text, (Text.splitAt slash text).filter isName⟩

def originText : Origin → Text
  | .relative => []
  | .root => [slash]
  | .doubleRoot => [slash, slash]

/-- The text of a path. One without a name and without a root is the working directory, a single
dot. -/
def text (path : Path) : Text :=
  match path.origin, path.names with
  | .relative, [] => [dot]
  | origin, names => originText origin ++ Text.joinWith slash names

def append (path next : Path) : Path :=
  match next.origin with
  | .relative => ⟨path.origin, path.names ++ next.names⟩
  | _ => next

def child (path : Path) (next : Text) : Path := path.append (ofText next)

end Path

end ChartManifests
