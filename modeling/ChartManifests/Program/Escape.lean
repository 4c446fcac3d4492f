import ChartManifests.Shell.Escaped
import ChartManifests.Text.Utf8
/-!
Escapes in texts, and what `echo` prints of them. The shell has its own of both; what stands alone
knows more escapes and options, and the rich shell does so too.
-/

namespace ChartManifests.Program

open Text (Bytes)

inductive Dialect
  | shell
  | standalone
  | rich
  | echoed
deriving DecidableEq, Repr

def Dialect.isRich (dialect : Dialect) : Bool := dialect = .rich || dialect = .echoed

def isOctal (character : Char) : Bool := '0' ≤ character && character ≤ '7'

def isHexadecimal (character : Char) : Bool :=
  character.isDigit || ('a' ≤ character && character ≤ 'f')
    || ('A' ≤ character && character ≤ 'F')

def hexValue (digits : List Char) : Nat :=
  digits.foldl (fun value digit => value * 16 +
    (if digit.isDigit then digit.toNat - '0'.toNat else digit.toLower.toNat - 'a'.toNat + 10)) 0

def octalValue (digits : List Char) : Nat :=
  digits.foldl (fun value digit => value * 8 + (digit.toNat - '0'.toNat)) 0

def bytesOf (characters : List Char) : Bytes := Text.ofCharacters characters

def upTo (count : Nat) (holds : Char → Bool) (characters : List Char) : List Char :=
  (characters.take count).takeWhile holds

def universalEscape (count : Nat) (characters : List Char) : Option (Bytes × List Char) :=
  let digits := upTo count isHexadecimal characters
  if digits.isEmpty then none
  else
    some (bytesOf (Shell.Escaped.universal (hexValue digits)), characters.drop digits.length)

/-- The bytes that an escape stands for, and what follows it; `none` if a backslash in front of the
text is only a backslash. -/
def escape (dialect : Dialect) : List Char → Option (Bytes × List Char)
  | 'a' :: rest => some ([7], rest)
  | 'b' :: rest => some ([8], rest)
  | 'f' :: rest => some ([12], rest)
  | 'n' :: rest => some ([10], rest)
  | 'r' :: rest => some ([13], rest)
  | 't' :: rest => some ([9], rest)
  | 'v' :: rest => some ([11], rest)
  | '\\' :: rest => some ([92], rest)
  | 'e' :: rest => some ([27], rest)
  | 'E' :: rest => if dialect.isRich then some ([27], rest) else none
  | 'u' :: rest => if dialect.isRich then universalEscape 4 rest else none
  | 'U' :: rest => if dialect.isRich then universalEscape 8 rest else none
  | 'x' :: rest =>
    let digits := upTo 2 isHexadecimal rest
    if dialect ≠ .shell ∧ digits ≠ [] then
      some ([UInt8.ofNat (hexValue digits)], rest.drop digits.length)
    else none
  | '"' :: rest => if dialect = .standalone then some ([34], rest) else none
  | character :: rest =>
    if isOctal character && dialect ≠ .echoed then
      let digits := upTo 3 isOctal (character :: rest)
      some ([UInt8.ofNat (octalValue digits)], (character :: rest).drop digits.length)
    else none
  | [] => none

def escapedText (dialect : Dialect) : Nat → List Char → Bytes × Bool
  | 0, _ => ([], true)
  | _ + 1, [] => ([], true)
  | bound + 1, '\\' :: rest =>
    let emit (first : Bytes) (after : List Char) : Bytes × Bool :=
      let (bytes, goesOn) := escapedText dialect bound after
      (first ++ bytes, goesOn)
    match rest with
    | 'c' :: _ => ([], false)
    | '0' :: more =>
      let digits := upTo 3 isOctal more
      emit [UInt8.ofNat (octalValue digits)] (more.drop digits.length)
    | _ =>
      match escape dialect rest with
      | some (found, after) => emit found after
      | none => emit [92] rest
  | bound + 1, character :: rest =>
    let (bytes, goesOn) := escapedText dialect bound rest
    (bytesOf [character] ++ bytes, goesOn)

def echoed (arguments : List String) : Bytes :=
  let (bare, words) := match arguments with
    | "-n" :: rest => (true, rest)
    | _ => (false, arguments)
  let text := (" ".intercalate words).toList
  let (bytes, goesOn) := escapedText .shell (text.length + 1) text
  if goesOn && !bare then bytes ++ [10] else bytes

def isEchoOption (word : String) : Bool :=
  match word.toList with
  | '-' :: letter :: rest => (letter :: rest).all fun other => ['n', 'e', 'E'].contains other
  | _ => false

/-- What an `echo` with options prints. Letters tell whether there are escapes in what it prints,
and whether the line ends. -/
def echoedIn (dialect : Dialect) (arguments : List String) : Bytes :=
  let letters := ((arguments.takeWhile isEchoOption).flatMap String.toList).filter (· ≠ '-')
  let words := arguments.dropWhile isEchoOption
  let text := " ".intercalate words
  let escapes := (letters.filter (· ≠ 'n')).getLast? = some 'e'
  let (bytes, goesOn) := if escapes then escapedText dialect (text.length + 1) text.toList
    else (Text.octets text, true)
  if goesOn && !letters.contains 'n' then bytes ++ [10] else bytes

def echoedAlone (arguments : List String) : Bytes := echoedIn .standalone arguments

end ChartManifests.Program
