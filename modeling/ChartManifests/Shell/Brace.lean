import ChartManifests.Shell.Grammar
/-!
Words with alternatives between braces, which stand for several words: texts with commas between
them, or a row of numbers or letters. Only what stands in the script itself counts; a brace without
a partner, or with neither commas nor two dots inside, is text.
-/

namespace ChartManifests.Shell.Brace

inductive Atom
  | character (value : Char)
  | whole (piece : Piece)

def atomsOf (word : Word) : List Atom :=
  word.flatMap fun piece => match piece with
    | .text characters false => characters.map .character
    | other => [.whole other]

def ofAtoms (atoms : List Atom) : Word :=
  atoms.foldr (fun atom word => match atom with
    | .character value => consPiece (.text [value] false) word
    | .whole piece => consPiece piece word) []

/-- What stands up to the brace that closes, and what follows it. `parted` tells that a comma or two
dots have been found. -/
def inside : Nat → Bool → List Atom → Option (List Atom × List Atom)
  | _, _, [] => none
  | level, parted, atom :: rest =>
    let goOn (level : Nat) (parted : Bool) : Option (List Atom × List Atom) :=
      (inside level parted rest).map fun (taken, after) => (atom :: taken, after)
    match level, atom with
    | level, .character '{' => goOn (level + 1) parted
    | level + 1, .character '}' => goOn level parted
    | 0, .character '}' => if parted then some ([], rest) else goOn 0 false
    | 0, .character ',' => goOn 0 true
    | 0, .character '.' =>
      match rest with
      | .character '.' :: .character '}' :: _ => goOn 0 parted
      | .character '.' :: _ => goOn 0 true
      | _ => goOn 0 parted
    | level, _ => goOn level parted

def parts : Nat → List Atom → List (List Atom)
  | _, [] => [[]]
  | level, atom :: rest =>
    let joined (level : Nat) : List (List Atom) :=
      match parts level rest with
      | first :: others => (atom :: first) :: others
      | [] => [[atom]]
    match level, atom with
    | 0, .character ',' => [] :: parts 0 rest
    | level, .character '{' => joined (level + 1)
    | level + 1, .character '}' => joined level
    | level, _ => joined level

def plain? (atoms : List Atom) : Option (List Char) :=
  atoms.mapM fun atom => match atom with
    | .character value => some value
    | .whole _ => none

def betweenDots : List Char → List (List Char)
  | [] => [[]]
  | '.' :: '.' :: rest => [] :: betweenDots rest
  | character :: rest =>
    match betweenDots rest with
    | first :: others => (character :: first) :: others
    | [] => [[character]]

def integer? (characters : List Char) : Option Int :=
  let (negative, digits) := match characters with
    | '-' :: rest => (true, rest)
    | '+' :: rest => (false, rest)
    | _ => (false, characters)
  if digits.isEmpty || !digits.all Char.isDigit then none
  else
    (String.ofList digits).toNat?.map fun value => if negative then -(value : Int) else value

def isFilled (characters : List Char) : Bool :=
  match characters with
  | '0' :: _ :: _ => true
  | '-' :: '0' :: _ :: _ => true
  | _ => false

def numberText (width : Nat) (value : Int) : List Char :=
  let digits := Nat.toDigits 10 value.natAbs
  let sign := if value < 0 then ['-'] else []
  sign ++ List.replicate (width - sign.length - digits.length) '0' ++ digits

def row (first last step : Int) : List Int :=
  let size := if step.natAbs = 0 then 1 else step.natAbs
  let count := (last - first).natAbs / size
  (List.range (count + 1)).map fun index =>
    if first ≤ last then first + (index * size : Nat) else first - (index * size : Nat)

def row? (characters : List Char) : Option (List (List Char)) :=
  let spelled (first last : List Char) (step : Int) : Option (List (List Char)) :=
    match integer? first, integer? last, first, last with
    | some low, some high, _, _ =>
      let width := if isFilled first || isFilled last then max first.length last.length else 0
      some ((row low high step).map (numberText width))
    | none, none, [low], [high] =>
      some ((row low.toNat high.toNat step).map fun code => [Char.ofNat code.toNat])
    | _, _, _, _ => none
  match betweenDots characters with
  | [first, last] => spelled first last 1
  | [first, last, step] => (integer? step).bind (spelled first last)
  | _ => none

def expanded : Nat → List Atom → List (List Atom)
  | 0, atoms => [atoms]
  | _ + 1, [] => [[]]
  | bound + 1, .character '{' :: rest =>
    match inside 0 false rest with
    | none => (expanded bound rest).map (.character '{' :: ·)
    | some (inner, after) =>
      let behind := expanded bound after
      let middle : List (List Atom) := match parts 0 inner with
        | [single] =>
          match (plain? single).bind row? with
          | some texts => texts.map fun text => text.map .character
          | none => (expanded bound inner).map fun atoms =>
            [.character '{'] ++ atoms ++ [.character '}']
        | several => several.flatMap (expanded bound)
      middle.flatMap fun atoms => behind.map (atoms ++ ·)
  | bound + 1, atom :: rest => (expanded bound rest).map (atom :: ·)

/-- The words that a word with braces stands for. An alternative without anything in it is no word
unless something stands around it. -/
def words (word : Word) : List Word :=
  let atoms := atomsOf word
  if atoms.any (fun atom => match atom with
    | .character '{' => true
    | _ => false)
  then ((expanded (2 * atoms.length + 1) atoms).map ofAtoms).filter fun found =>
    !found.isEmpty || word.isEmpty
  else [word]

end ChartManifests.Shell.Brace
