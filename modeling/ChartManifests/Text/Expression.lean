import ChartManifests.Text.CharacterClass
/-!
Regular expressions, and where they stand for a part of a text. Of all the parts that an expression
stands for, the one that begins first is found, and of those the longest.
-/

namespace ChartManifests.Text

inductive Edge
  | start
  | finish
  | wordStart
  | wordFinish
  | wordEdge (isOne : Bool)
deriving DecidableEq, Repr

inductive Expression
  | nothing
  | anyCharacter
  | exactly (character : Char)
  | oneOf (negated : Bool) (members : List Member)
  | edge (kind : Edge)
  | again (number : Nat)
  | group (number : Nat) (body : Expression)
  | both (first second : Expression)
  | either (first second : Expression)
  | repeated (low : Nat) (high : Option Nat) (body : Expression)
deriving Repr

namespace Expression

structure Place where
  before : Option Char
  rest : List Char
  count : Nat
deriving DecidableEq, Repr

def isWordCharacter (character : Char) : Bool := character.isAlphanum || character = '_'

def Place.isAt (place : Place) : Edge → Bool
  | .start => place.before.isNone
  | .finish => place.rest.isEmpty
  | .wordStart =>
    !place.before.any isWordCharacter && place.rest.head?.any isWordCharacter
  | .wordFinish =>
    place.before.any isWordCharacter && !place.rest.head?.any isWordCharacter
  | .wordEdge isOne =>
    (place.before.any isWordCharacter != place.rest.head?.any isWordCharacter) = isOne

def Place.step? (holds : Char → Bool) (place : Place) : Option Place :=
  match place.rest with
  | character :: rest =>
    if holds character then some ⟨some character, rest, place.count - 1⟩ else none
  | [] => none

def Place.skip (place : Place) (count : Nat) : Place :=
  { place with
    before := ((place.rest.take count).getLast?).or place.before
    rest := place.rest.drop count
    count := place.count - count }

def same (folds : Bool) (left right : Char) : Bool :=
  left = right || (folds && left.toLower = right.toLower)

def admits (folds : Bool) (members : List Member) (character : Char) : Bool :=
  let isIn (other : Char) : Bool := members.any (·.admits other)
  isIn character || (folds && (isIn character.toLower || isIn character.toUpper))

def furthest (places : List Place) : List Place :=
  (places.mergeSort fun left right => left.count ≤ right.count).foldr (fun place kept =>
    match kept with
    | next :: others =>
      if place.count = next.count then place :: others else place :: next :: others
    | [] => [place]) []

def spread (step : List Place → List Place) :
    Nat → Option Nat → Nat → List Place → List Place
  | 0, _, _, _ => []
  | bound + 1, high, 0, places =>
    if high = some 0 then places
    else
      let fresh := (step places).filter fun place =>
        !places.any fun other => other.count = place.count
      if fresh.isEmpty then places
      else places ++ spread step bound (high.map (· - 1)) 0 fresh
  | bound + 1, high, low + 1, places =>
    spread step bound (high.map (· - 1)) low (step places)

/-- The places where an expression can end that begins at one of some places, the furthest first;
`again` is taken to stand for nothing. -/
def ends (folds : Bool) : Expression → List Place → List Place
  | nothing, places | again _, places => places
  | anyCharacter, places => places.filterMap (Place.step? fun _ => true)
  | exactly wanted, places => places.filterMap (Place.step? (same folds wanted))
  | oneOf negated members, places =>
    places.filterMap (Place.step? fun character => admits folds members character != negated)
  | edge kind, places => places.filter (·.isAt kind)
  | group _ body, places => ends folds body places
  | both first second, places => ends folds second (ends folds first places)
  | either first second, places => furthest (ends folds first places ++ ends folds second places)
  | repeated low high body, places =>
    let reach := (places.map Place.count).foldl max 0
    furthest (spread (ends folds body) (reach + low + 2) high low places)

abbrev Held := List (Nat × List Char)

abbrev Continuation := Place → Held → Option Held

def repeat? (folds : Bool) (held : List Char) (place : Place) : Option Place :=
  let taken := place.rest.take held.length
  if taken.length = held.length ∧ (held.zip taken).all fun pair => same folds pair.1 pair.2 then
    some (place.skip held.length)
  else none

def repeatedly (step : Place → Held → Continuation → Option Held) (next : Continuation) :
    Nat → Nat → Option Nat → Place → Held → Option Held
  | 0, _, _, _, _ => none
  | bound + 1, low, high, place, held =>
    let further := if high = some 0 then none else
      step place held fun last held =>
        if last.count = place.count && low = 0 then none
        else repeatedly step next bound (low - 1) (high.map (· - 1)) last held
    further.orElse fun _ => if low = 0 then next place held else none

/-- Follows an expression from a place on, such that what follows succeeds. The first of two
alternatives goes before the second. -/
def walk (folds : Bool) : Expression → Place → Held → Continuation → Option Held
  | nothing, place, held, next => next place held
  | anyCharacter, place, held, next => (place.step? fun _ => true).bind (next · held)
  | exactly wanted, place, held, next => (place.step? (same folds wanted)).bind (next · held)
  | oneOf negated members, place, held, next =>
    (place.step? fun character => admits folds members character != negated).bind (next · held)
  | edge kind, place, held, next => if place.isAt kind then next place held else none
  | again number, place, held, next =>
    ((held.lookup number).bind (repeat? folds · place)).bind (next · held)
  | group number body, place, held, next =>
    walk folds body place held fun last held =>
      let matched := place.rest.take (place.count - last.count)
      next last ((number, matched) :: held.filter (·.1 ≠ number))
  | both first second, place, held, next =>
    walk folds first place held fun last held => walk folds second last held next
  | either first second, place, held, next =>
    (walk folds first place held next).orElse fun _ => walk folds second place held next
  | repeated low high body, place, held, next =>
    repeatedly (walk folds body) next (place.count + low + 2) low high place held

def refers : Expression → Bool
  | again _ => true
  | group _ body | repeated _ _ body => refers body
  | both first second | either first second => refers first || refers second
  | _ => false

def candidates (folds : Bool) (expression : Expression) (place : Place) : List Place :=
  if expression.refers then
    (List.range (place.count + 1)).reverse.map place.skip
  else furthest (expression.ends folds [place])

structure Found where
  before : List Char
  matched : List Char
  after : List Char
  held : Held
deriving DecidableEq, Repr

/-- Looks for the first place where an expression can begin such that an end of it is accepted;
`passed` is what has been looked at, the latest in front. -/
def findFrom (folds : Bool) (accepts : Option Char → Place → Bool) (expression : Expression)
    (passed : List Char) : List Char → Option Found
  | [] => attempt []
  | character :: rest =>
    (attempt (character :: rest)).orElse fun _ =>
      findFrom folds accepts expression (character :: passed) rest
where
  attempt (text : List Char) : Option Found :=
    let place : Place := ⟨passed.head?, text, text.length⟩
    let ends := (expression.candidates folds place).filter (accepts place.before)
    ends.findSome? fun last =>
      (expression.walk folds place [] fun reached held =>
        if reached.count = last.count then some held else none).map fun held =>
          ⟨passed.reverse, text.take (place.count - last.count), last.rest, held⟩

/-- The first part of a text that an expression stands for, behind characters that have been passed;
`folds` tells whether letters in upper and lower case are the same. -/
def find (folds : Bool) (expression : Expression) (passed text : List Char) : Option Found :=
  findFrom folds (fun _ _ => true) expression passed text

end Expression

end ChartManifests.Text
