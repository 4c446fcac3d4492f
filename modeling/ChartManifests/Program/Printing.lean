import ChartManifests.Calendar.Clock
import ChartManifests.Number.Places
import ChartManifests.Program.Escape
import ChartManifests.Program.Requoting
/-!
What `printf` prints: a format with directives, each of which shows the next argument. The format is
used again and again, until no argument is left. Numbers are read from the beginnings of arguments,
and what is wrong with an argument is complained about without an end to the printing.
-/

namespace ChartManifests.Program

open Text (Bytes)

structure Directive where
  flags : List Char
  width : Nat
  precision : Option Nat
  timeFormat : List Char
  conversion : Char

def Directive.has (directive : Directive) (flag : Char) : Bool := directive.flags.contains flag

def padded (directive : Directive) (content : Bytes) : Bytes :=
  let missing := directive.width - content.length
  if directive.has '-' then content ++ List.replicate missing 32
  else List.replicate missing 32 ++ content

def digitsIn (base : Nat) (value : Nat) : List Char := Nat.toDigits base value

def signText (directive : Directive) (negative : Bool) : List Char :=
  if negative then ['-'] else if directive.has '+' then ['+']
  else if directive.has ' ' then [' '] else []

def shownNumber (directive : Directive) (value : Int) : Bytes :=
  let unsigned := if value < 0 then (value + 2 ^ 64).toNat else value.toNat
  let (sign, digits) := match directive.conversion with
    | 'o' => ([], (if directive.has '#' && unsigned ≠ 0 then ['0'] else []) ++ digitsIn 8 unsigned)
    | 'x' => (if directive.has '#' && unsigned ≠ 0 then ['0', 'x'] else [], digitsIn 16 unsigned)
    | 'X' => (if directive.has '#' && unsigned ≠ 0 then ['0', 'X'] else [],
      (digitsIn 16 unsigned).map Char.toUpper)
    | 'u' => ([], digitsIn 10 unsigned)
    | _ => (signText directive (value < 0), digitsIn 10 value.natAbs)
  let shown := if directive.precision = some 0 && value = 0 then [] else digits
  let least := match directive.precision with
    | some least => least
    | none => if directive.has '0' && !directive.has '-' then directive.width - sign.length else 1
  padded directive (bytesOf (sign ++ Double.padLeft least shown))

inductive Real
  | finite (negative : Bool) (magnitude : Ratio)
  | infinite (negative : Bool)
  | undefined (negative : Bool)
deriving DecidableEq, Repr

def shownReal (directive : Directive) (real : Real) : Bytes :=
  let places := directive.precision.getD 6
  let point := directive.has '#'
  let lower := directive.conversion.toLower
  let (sign, body) := match real with
    | .finite negative magnitude =>
      (signText directive negative,
        if lower = 'f' then magnitude.fixedText point places
        else if lower = 'e' then magnitude.scientificText point places
        else magnitude.generalText point places)
    | .infinite negative => (signText directive negative, "inf".toList)
    | .undefined negative => (signText directive negative, "nan".toList)
  let isFinite := match real with
    | .finite _ _ => true
    | _ => false
  let zeros := if directive.has '0' && !directive.has '-' && isFinite then
      directive.width - sign.length - body.length
    else 0
  let text := sign ++ List.replicate zeros '0' ++ body
  padded directive
    (bytesOf (if directive.conversion.isUpper then text.map Char.toUpper else text))

def splitSign : List Char → Bool × List Char
  | '-' :: rest => (true, rest)
  | '+' :: rest => (false, rest)
  | characters => (false, characters)

/-- The number that an argument spells, and whether it spells one entirely; `none` if it does not
even begin with one. -/
def argumentNumber (text : String) : Option (Int × Bool) :=
  let (negative, digits) := splitSign (text.toList.dropWhile Char.isWhitespace)
  let signed (value : Nat) : Int := if negative then -value else value
  match digits with
  | '0' :: mark :: rest =>
    let hexadecimal := rest.takeWhile isHexadecimal
    if (mark = 'x' ∨ mark = 'X') ∧ hexadecimal ≠ [] then
      some (signed (hexValue hexadecimal), hexadecimal.length = rest.length)
    else
      let taken := (mark :: rest).takeWhile isOctal
      some (signed (octalValue taken), taken.length = rest.length + 1)
  | _ =>
    let taken := digits.takeWhile Char.isDigit
    if taken.isEmpty then none
    else some (signed ((String.ofList taken).toNat?.getD 0), taken.length = digits.length)

def powerOf (mark : Char) (characters : List Char) : Int × List Char :=
  match characters with
  | first :: rest =>
    let (negative, digits) := splitSign rest
    let taken := digits.takeWhile Char.isDigit
    if first.toLower = mark ∧ taken ≠ [] then
      let value : Int := ((String.ofList taken).toNat?.getD 0 : Nat)
      (if negative then -(min value 9999) else min value 9999, digits.drop taken.length)
    else (0, characters)
  | [] => (0, [])

/-- The digits of a number around a point, as one number with the count of places, and what follows
them; `none` if there are no digits. -/
def mantissaOf (base : Nat) (isDigit : Char → Bool) (characters : List Char) :
    Option (Nat × Nat × List Char) :=
  let whole := characters.takeWhile isDigit
  let behind := characters.drop whole.length
  let (fraction, rest) := match behind with
    | '.' :: more =>
      let taken := more.takeWhile isDigit
      if whole.isEmpty && taken.isEmpty then ([], behind) else (taken, more.drop taken.length)
    | _ => ([], behind)
  if whole.isEmpty && fraction.isEmpty then none
  else
    let value := if base = 16 then hexValue (whole ++ fraction)
      else (String.ofList (whole ++ fraction)).toNat?.getD 0
    some (value, fraction.length, rest)

def argumentReal (bits : Nat) (text : String) : Option (Real × Bool) :=
  let (negative, body) := splitSign (text.toList.dropWhile Char.isWhitespace)
  let lower := body.map Char.toLower
  let finite (ratio : Ratio) (rest : List Char) : Option (Real × Bool) :=
    some (.finite negative (ratio.nearest bits), rest.isEmpty)
  let decimal : Option (Real × Bool) :=
    match mantissaOf 10 Char.isDigit body with
    | some (value, places, rest) =>
      let (power, last) := powerOf 'e' rest
      finite ((Ratio.ofNat value).scale 10 (power - places)) last
    | none => none
  match lower with
  | '0' :: 'x' :: _ =>
    match mantissaOf 16 isHexadecimal (body.drop 2) with
    | some (value, places, rest) =>
      let (power, last) := powerOf 'p' rest
      finite ((Ratio.ofNat value).scale 2 (power - 4 * places)) last
    | none => decimal
  | 'i' :: 'n' :: 'f' :: rest =>
    some (.infinite negative, rest.isEmpty || rest = "inity".toList)
  | 'n' :: 'a' :: 'n' :: rest => some (.undefined negative, rest.isEmpty)
  | _ => decimal

inductive Complaint
  | noNumber (text : String)
  | trailing (text : String)
  | outOfRange (text : String)
  | directive (text : String)
  | unfinished (text : String)
deriving DecidableEq, Repr

def Complaint.message (dialect : Dialect) : Complaint → String
  | noNumber text => match dialect with
    | .shell => text ++ ": expected numeric value"
    | .standalone => "'" ++ text ++ "': expected a numeric value"
    | _ => text ++ ": invalid number"
  | trailing text => match dialect with
    | .shell => text ++ ": not completely converted"
    | .standalone => "'" ++ text ++ "': value not completely converted"
    | _ => text ++ ": invalid " ++ (match text.toList with
      | '0' :: mark :: _ =>
        if mark = 'x' || mark = 'X' then "hex number"
        else if mark.isDigit then "octal number" else "number"
      | _ => "number")
  | outOfRange text => match dialect with
    | .shell => text ++ ": Numerical result out of range"
    | .standalone => "'" ++ text ++ "': Numerical result out of range"
    | _ => "warning: " ++ text ++ ": Numerical result out of range"
  | directive text => match dialect with
    | .shell => text ++ ": invalid directive"
    | .standalone => text ++ ": invalid conversion specification"
    | _ => "`" ++ String.ofList (text.toList.drop (text.length - 1))
      ++ "': invalid format character"
  | unfinished text => match dialect with
    | .shell => "missing format character"
    | .standalone => text ++ ": invalid conversion specification"
    | _ => "`" ++ text ++ "': missing format character"

def Complaint.status (dialect : Dialect) : Complaint → Nat
  | directive _ | unfinished _ => if dialect = .shell then 2 else 1
  | outOfRange _ => if dialect.isRich then 0 else 1
  | _ => 1

/-- What printing has come to: the bytes, what is complained about, the arguments that are left,
and whether printing goes on. -/
structure Printing where
  content : Bytes
  complaints : List Complaint
  arguments : List String
  goesOn : Bool

def quotedCode? (text : String) : Option Nat :=
  match text.toList with
  | '\'' :: character :: _ | '"' :: character :: _ =>
    some (((bytesOf [character]).headD 0).toNat)
  | ['\''] | ['"'] => some 0
  | _ => none

def wholeArgument (low high : Int) (text : String) : Int × List Complaint :=
  match quotedCode? text, argumentNumber text with
  | some code, _ => (code, [])
  | none, some (value, complete) =>
    let kept := max low (min high value)
    (kept, if !complete then [.trailing text]
      else if kept ≠ value then [.outOfRange text] else [])
  | none, none => (0, if text = "" then [] else [.noNumber text])

def realArgument (dialect : Dialect) (text : String) : Real × List Complaint :=
  let bits := if dialect = .shell then 53 else 64
  match quotedCode? text, argumentReal bits text with
  | some code, _ => (.finite false (Ratio.ofNat code), [])
  | none, some (value, complete) =>
    let complaints := if complete then [] else [.trailing text]
    match value with
    | .finite negative magnitude =>
      if dialect = .shell && !magnitude.isBelow (2 ^ 1024) then
        (.infinite negative, if complete then [.outOfRange text] else complaints)
      else (value, complaints)
    | _ => (value, complaints)
  | none, none =>
    (.finite false (Ratio.ofNat 0), if text = "" then [] else [.noNumber text])

def measure (arguments : List String) : List Char → Option Int × List String × List Char
  | '*' :: rest =>
    (some (wholeArgument (-2 ^ 31) (2 ^ 31) (arguments.headD "")).1, arguments.drop 1, rest)
  | characters =>
    let digits := characters.takeWhile Char.isDigit
    (if digits.isEmpty then none else some ((String.ofList digits).toNat?.getD 0 : Nat),
      arguments, characters.drop digits.length)

/-- The seconds of the era that an argument means: a number below zero or no argument is the
present, and so is the time when the shell began. -/
def timeArgument (now : Nat) (arguments : List String) : Nat × List Complaint :=
  match arguments with
  | [] => (now, [])
  | text :: _ =>
    let (value, complaints) := wholeArgument (-2 ^ 63) (2 ^ 63 - 1) text
    (if value < 0 then now else value.toNat, complaints)

def applyDirective (dialect : Dialect) (now : Nat) (directive : Directive)
    (arguments : List String) : Option Printing :=
  let text := arguments.headD ""
  let rest := arguments.drop 1
  let cut (bytes : Bytes) : Bytes := match directive.precision with
    | some length => bytes.take length
    | none => bytes
  let whole (low high : Int) : Option Printing :=
    let (value, complaints) := wholeArgument low high text
    some ⟨shownNumber directive value, complaints, rest, true⟩
  match directive.conversion with
  | 's' => some ⟨padded directive (cut (Text.octets text)), [], rest, true⟩
  | 'c' =>
    let first := if text = "" then [0] else (Text.octets text).take 1
    some ⟨padded directive first, [], rest, true⟩
  | 'b' =>
    let (bytes, goesOn) := escapedText dialect (text.length + 1) text.toList
    some ⟨padded directive (cut bytes), [], rest, goesOn⟩
  | 'd' | 'i' => whole (-2 ^ 63) (2 ^ 63 - 1)
  | 'o' | 'u' | 'x' | 'X' => whole (-2 ^ 63) (2 ^ 64 - 1)
  | 'e' | 'E' | 'f' | 'F' | 'g' | 'G' =>
    let (value, complaints) := realArgument dialect text
    some ⟨shownReal directive value, complaints, rest, true⟩
  | 'q' | 'Q' =>
    let word (bytes : Bytes) : Bytes := Text.octets (Requoting.word (Text.ofOctets bytes))
    let shown := if directive.conversion = 'q' then cut (word (Text.octets text))
      else word (cut (Text.octets text))
    if dialect.isRich then some ⟨padded directive shown, [], rest, true⟩ else none
  | 'T' =>
    let (seconds, complaints) := timeArgument now arguments
    let format := if directive.timeFormat.isEmpty then ['%', 'X'] else directive.timeFormat
    if dialect.isRich then
      some ⟨padded directive (cut (bytesOf (Clock.formatted seconds format))), complaints, rest,
        true⟩
    else none
  | _ => none

def timeFormatOf (dialect : Dialect) (characters : List Char) : Option (List Char × List Char) :=
  match characters with
  | '(' :: inner =>
    let rec upToEnd : Nat → List Char → Option (List Char × List Char)
      | 0, ')' :: 'T' :: rest => some ([], 'T' :: rest)
      | depth, '(' :: rest => (upToEnd (depth + 1) rest).map fun found => ('(' :: found.1, found.2)
      | depth + 1, ')' :: rest => (upToEnd depth rest).map fun found => (')' :: found.1, found.2)
      | depth, character :: rest =>
        (upToEnd depth rest).map fun found => (character :: found.1, found.2)
      | _, [] => none
    if dialect.isRich then upToEnd 0 inner else none
  | _ => none

def isSizeLetter (character : Char) : Bool := "hlLjtz".toList.contains character

def printOnce (dialect : Dialect) (now : Nat) : Nat → List String → List Char → Printing
  | 0, arguments, _ => ⟨[], [], arguments, true⟩
  | _ + 1, arguments, [] => ⟨[], [], arguments, true⟩
  | bound + 1, arguments, characters =>
    let emit (bytes : Bytes) (complaints : List Complaint) (arguments : List String)
        (rest : List Char) : Printing :=
      let next := printOnce dialect now bound arguments rest
      { next with content := bytes ++ next.content, complaints := complaints ++ next.complaints }
    match characters with
    | '%' :: '%' :: rest => emit [37] [] arguments rest
    | '%' :: rest =>
      let flags := rest.takeWhile fun other => ['-', '+', ' ', '#', '0'].contains other
      let (width, afterWidth, more) := measure arguments (rest.drop flags.length)
      let (precision, left, behindSizes) := match more with
        | '.' :: behind =>
          let (value, left, last) := measure afterWidth behind
          (some (value.getD 0).toNat, left, last)
        | _ => (none, afterWidth, more)
      let (timeFormat, last) := match timeFormatOf dialect behindSizes with
        | some found => found
        | none => ([], if dialect.isRich then behindSizes.dropWhile isSizeLetter else behindSizes)
      let wide := width.getD 0
      let allFlags := if wide < 0 then '-' :: flags else flags
      let spelled (count : Nat) : String :=
        String.ofList (characters.take (characters.length - last.length + count))
      match last with
      | [] => ⟨[], [.unfinished (spelled 0)], [], false⟩
      | conversion :: behind =>
        match applyDirective dialect now
            ⟨allFlags, wide.natAbs, precision, timeFormat, conversion⟩ left with
        | some shown =>
          if shown.goesOn then emit shown.content shown.complaints shown.arguments behind
          else shown
        | none => ⟨[], [.directive (spelled 1)], [], false⟩
    | '\\' :: rest =>
      match rest with
      | 'c' :: _ =>
        if dialect = .standalone then ⟨[], [], [], false⟩ else emit [92] [] arguments rest
      | character :: more =>
        if dialect.isRich && ['"', '\'', '?'].contains character then
          emit (bytesOf [character]) [] arguments more
        else
          match escape dialect rest with
          | some (bytes, after) => emit bytes [] arguments after
          | none => emit [92] [] arguments rest
      | [] => emit [92] [] arguments rest
    | character :: rest => emit (bytesOf [character]) [] arguments rest
    | [] => ⟨[], [], arguments, true⟩

def printAll (dialect : Dialect) (now : Nat) (format : List Char) :
    Nat → List String → Printing
  | 0, arguments => ⟨[], [], arguments, true⟩
  | bound + 1, arguments =>
    let once := printOnce dialect now (format.length + 1) arguments format
    if once.goesOn && !once.arguments.isEmpty && once.arguments.length < arguments.length then
      let more := printAll dialect now format bound once.arguments
      { more with
        content := once.content ++ more.content
        complaints := once.complaints ++ more.complaints }
    else once

def printed (dialect : Dialect) (now : Nat) (format : String) (arguments : List String) :
    Bytes × List Complaint :=
  let printing := printAll dialect now format.toList (arguments.length + 1) arguments
  (printing.content, printing.complaints)

end ChartManifests.Program
