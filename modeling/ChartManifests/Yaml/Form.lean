import ChartManifests.Yaml.Graph
import ChartManifests.Yaml.Timestamp
/-!
What a plain scalar without a tag denotes is decided by its form. Every form may be followed by
one line feed.
-/

namespace ChartManifests.Yaml.Form

def dropLineFeed (characters : List Char) : List Char :=
  if characters.getLast? = some '\n' then characters.dropLast else characters

def dropSign : List Char → List Char
  | '+' :: rest | '-' :: rest => rest
  | characters => characters

def isDigitOrBar (character : Char) : Bool := isAsciiDigit character || character = '_'

def isHexOrBar (character : Char) : Bool :=
  isDigitOrBar character || ('a' ≤ character && character ≤ 'f')
    || ('A' ≤ character && character ≤ 'F')

def isName (name characters : List Char) : Bool :=
  characters = name || characters = name.map Char.toUpper
    || characters = (name.take 1).map Char.toUpper ++ name.drop 1

def isBoolean (characters : List Char) : Bool :=
  [['y', 'e', 's'], ['n', 'o'], ['t', 'r', 'u', 'e'], ['f', 'a', 'l', 's', 'e'], ['o', 'n'],
    ['o', 'f', 'f']].any (isName · characters)

def dropSixtieths : Nat → List Char → Option (List Char)
  | 0, _ => none
  | fuel + 1, characters =>
    match characters with
    | ':' :: rest =>
      let digits := rest.takeWhile isAsciiDigit
      let after := rest.drop digits.length
      let fits := digits.length = 1 || (digits.length = 2 && digitsValue digits < 60)
      if !fits then none
      else if after.head? = some ':' then dropSixtieths fuel after
      else some after
    | _ => none

def isExponent : List Char → Bool
  | mark :: sign :: rest =>
    (mark = 'e' || mark = 'E') && (sign = '+' || sign = '-') && !rest.isEmpty
      && rest.all isAsciiDigit
  | _ => false

def isFraction (characters : List Char) : Bool :=
  let rest := characters.dropWhile isDigitOrBar
  rest.isEmpty || isExponent rest

def isPointed (unsigned : List Char) : Bool :=
  match unsigned with
  | first :: _ =>
    isAsciiDigit first &&
      match unsigned.dropWhile isDigitOrBar with
      | '.' :: rest => isFraction rest
      | _ => false
  | [] => false

def isSexagesimalPointed (unsigned : List Char) : Bool :=
  match unsigned with
  | first :: rest =>
    isAsciiDigit first &&
      match dropSixtieths unsigned.length (rest.dropWhile isDigitOrBar) with
      | some ('.' :: fraction) => fraction.all isDigitOrBar
      | _ => false
  | [] => false

def isDouble (characters : List Char) : Bool :=
  let unsigned := dropSign characters
  isPointed unsigned || isSexagesimalPointed unsigned
    || (match unsigned with
        | '.' :: name => isName ['i', 'n', 'f'] name
        | _ => false)
    || (match characters with
        | '.' :: first :: rest => isAsciiDigit first && isFraction rest
        | _ => false)
    || characters = ['.', 'n', 'a', 'n'] || characters = ['.', 'N', 'a', 'N']
    || characters = ['.', 'N', 'A', 'N']

def isInteger (characters : List Char) : Bool :=
  match dropSign characters with
  | ['0'] => true
  | '0' :: 'b' :: bits =>
    !bits.isEmpty && bits.all fun bit => bit = '0' || bit = '1' || bit = '_'
  | '0' :: 'x' :: digits => !digits.isEmpty && digits.all isHexOrBar
  | '0' :: digits => digits.all fun digit => ('0' ≤ digit && digit ≤ '7') || digit = '_'
  | first :: rest =>
    isAsciiDigit first &&
      match rest.dropWhile isDigitOrBar with
      | [] => true
      | groups => dropSixtieths groups.length groups = some []
  | [] => false

def isNull (characters : List Char) : Bool :=
  characters = ['~'] || isName ['n', 'u', 'l', 'l'] characters

def isTimestamp (characters : List Char) : Bool :=
  match Timestamp.parse? characters with
  | some timestamp => timestamp.padded || timestamp.time.isSome
  | none => false

def tag (characters : List Char) : Tag :=
  let form := dropLineFeed characters
  if characters.isEmpty then .null
  else if isBoolean form then .boolean
  else if isDouble form then .double
  else if isInteger form then .integer
  else if form = ['<', '<'] then .merge
  else if isNull form then .null
  else if isTimestamp form then .timestamp
  else if form = ['='] then .value
  else if form = ['!'] ∨ form = ['&'] ∨ form = ['*'] then .unknown
  else .text

def tagOf (text : Text) : Tag :=
  match text.chars? with
  | some characters => tag characters
  | none => .text

end ChartManifests.Yaml.Form
