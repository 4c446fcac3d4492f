import ChartManifests.Number.Whole
/-!
Arithmetic expressions of the shell, on whole numbers of 64 bits. An expression is worked out while
it is read; operators that bind more tightly are worked out first. What does not matter for the
value is read but not worked out.
-/

namespace ChartManifests.Shell.Arithmetic

inductive Fault
  | primary
  | endOfText
  | parenthesis
  | colon
  | divisionByZero
  | illegalNumber (text : String)
  | fixed (name : String)
deriving DecidableEq, Repr

def Fault.message (expression : String) (fault : Fault) : String :=
  let located (text : String) : String :=
    "arithmetic expression: " ++ text ++ ": \"" ++ expression ++ "\""
  match fault with
  | primary => located "expecting primary"
  | endOfText => located "expecting EOF"
  | parenthesis => located "expecting ')'"
  | colon => located "expecting ':'"
  | divisionByZero => located "division by zero"
  | illegalNumber text => "Illegal number: " ++ text
  | fixed name => name ++ ": is read only"

inductive Token
  | number (value : Int)
  | name (text : String)
  | operator (text : String)
  | unknown
deriving DecidableEq, Repr

def operators : List String :=
  ["<<=", ">>=", "<<", ">>", "<=", ">=", "==", "!=", "&&", "||", "+=", "-=", "*=", "/=", "%=",
    "&=", "|=", "^=", "+", "-", "*", "/", "%", "<", ">", "=", "!", "~", "&", "|", "^", "(", ")",
    "?", ":"]

def isOctal (character : Char) : Bool := '0' ≤ character && character ≤ '7'

def isHexadecimal (character : Char) : Bool :=
  character.isDigit || ('a' ≤ character && character ≤ 'f')
    || ('A' ≤ character && character ≤ 'F')

def digitValue (character : Char) : Nat :=
  if character.isDigit then character.toNat - '0'.toNat
  else character.toLower.toNat - 'a'.toNat + 10

def valueOf (base : Nat) (digits : List Char) : Nat :=
  digits.foldl (fun value digit => value * base + digitValue digit) 0

def largest : Nat := 2 ^ 63 - 1

/-- The number that a text begins with, without a sign, and what follows it: with `0x` in front
hexadecimal, with `0` in front octal. -/
def leadingNumber (characters : List Char) : Nat × List Char :=
  match characters with
  | '0' :: mark :: digit :: rest =>
    if (mark = 'x' || mark = 'X') && isHexadecimal digit then
      let taken := (digit :: rest).takeWhile isHexadecimal
      (valueOf 16 taken, (digit :: rest).drop taken.length)
    else
      let taken := characters.takeWhile isOctal
      (valueOf 8 taken, characters.drop taken.length)
  | '0' :: _ =>
    let taken := characters.takeWhile isOctal
    (valueOf 8 taken, characters.drop taken.length)
  | _ =>
    let taken := characters.takeWhile Char.isDigit
    (valueOf 10 taken, characters.drop taken.length)

def tokens : Nat → List Char → List Token
  | 0, _ => []
  | _ + 1, [] => []
  | bound + 1, character :: rest =>
    if character.isWhitespace then tokens bound rest
    else if character.isDigit then
      let (value, after) := leadingNumber (character :: rest)
      .number (min value largest) :: tokens bound after
    else if character.isAlpha || character = '_' then
      let taken := (character :: rest).takeWhile fun other => other.isAlphanum || other = '_'
      .name (String.ofList taken) :: tokens bound ((character :: rest).drop taken.length)
    else
      match operators.find? fun operator => operator.toList.isPrefixOf (character :: rest) with
      | some operator =>
        .operator operator :: tokens bound ((character :: rest).drop operator.length)
      | none => [.unknown]

def power : String → Option Nat
  | "|" => some 1
  | "^" => some 2
  | "&" => some 3
  | "==" | "!=" => some 4
  | "<" | ">" | "<=" | ">=" => some 5
  | "<<" | ">>" => some 6
  | "+" | "-" => some 7
  | "*" | "/" | "%" => some 8
  | _ => none

def truth (holds : Bool) : Int := if holds then 1 else 0

def wrapped (value : Int) : Int := Int.bmod value (2 ^ 64)

def word (value : Int) : Nat := (value % 2 ^ 64).toNat

def apply (operator : String) (left right : Int) : Except Fault Int :=
  match operator with
  | "|" => .ok (wrapped (word left ||| word right : Nat))
  | "^" => .ok (wrapped (word left ^^^ word right : Nat))
  | "&" => .ok (wrapped (word left &&& word right : Nat))
  | "==" => .ok (truth (left = right))
  | "!=" => .ok (truth (left ≠ right))
  | "<" => .ok (truth (left < right))
  | ">" => .ok (truth (left > right))
  | "<=" => .ok (truth (left ≤ right))
  | ">=" => .ok (truth (left ≥ right))
  | "<<" => .ok (wrapped (left * 2 ^ (word right % 64)))
  | ">>" => .ok (left / 2 ^ (word right % 64))
  | "+" => .ok (wrapped (left + right))
  | "-" => .ok (wrapped (left - right))
  | "*" => .ok (wrapped (left * right))
  | "/" => if right = 0 then .error .divisionByZero else .ok (wrapped (left.tdiv right))
  | "%" => if right = 0 then .error .divisionByZero else .ok (left.tmod right)
  | _ => .error .primary

abbrev Bindings := List (String × Int)

structure Progress where
  value : Int
  rest : List Token
  bindings : Bindings

def assigning : String → Option (Option String)
  | "=" => some none
  | "+=" => some (some "+")
  | "-=" => some (some "-")
  | "*=" => some (some "*")
  | "/=" => some (some "/")
  | "%=" => some (some "%")
  | "&=" => some (some "&")
  | "|=" => some (some "|")
  | "^=" => some (some "^")
  | "<<=" => some (some "<<")
  | ">>=" => some (some ">>")
  | _ => none

abbrev Lookup := String → Except Fault Int

mutual

def assignment (lookup : Lookup) (idle : Bool) : Nat → Bindings → List Token →
    Except Fault Progress
  | 0, _, _ => .error .primary
  | bound + 1, bindings, tokens =>
    match tokens with
    | .name text :: .operator operator :: more =>
      match assigning operator with
      | some change => do
        let right ← assignment lookup idle bound bindings more
        if idle then .ok right
        else
          let value ← match change with
            | none => .ok right.value
            | some operator => do
              let old ← (right.bindings.lookup text).elim (lookup text) .ok
              apply operator old right.value
          .ok ⟨value, right.rest, (text, value) :: right.bindings⟩
      | none => choice lookup idle bound bindings tokens
    | _ => choice lookup idle bound bindings tokens

def choice (lookup : Lookup) (idle : Bool) : Nat → Bindings → List Token →
    Except Fault Progress
  | 0, _, _ => .error .primary
  | bound + 1, bindings, tokens => do
    let condition ← either lookup idle bound bindings tokens
    match condition.rest with
    | .operator "?" :: rest => do
      let holds := condition.value ≠ 0
      let yes ← assignment lookup (idle || !holds) bound condition.bindings rest
      match yes.rest with
      | .operator ":" :: more => do
        let no ← choice lookup (idle || holds) bound yes.bindings more
        .ok { no with value := if holds then yes.value else no.value }
      | _ => .error .colon
    | _ => .ok condition

def either (lookup : Lookup) (idle : Bool) : Nat → Bindings → List Token →
    Except Fault Progress
  | 0, _, _ => .error .primary
  | bound + 1, bindings, tokens => do
    let first ← both lookup idle bound bindings tokens
    match first.rest with
    | .operator "||" :: rest => do
      let second ← either lookup (idle || first.value ≠ 0) bound first.bindings rest
      .ok { second with value := truth (first.value ≠ 0 || second.value ≠ 0) }
    | _ => .ok first

def both (lookup : Lookup) (idle : Bool) : Nat → Bindings → List Token →
    Except Fault Progress
  | 0, _, _ => .error .primary
  | bound + 1, bindings, tokens => do
    let first ← operation lookup idle bound 0 bindings tokens
    match first.rest with
    | .operator "&&" :: rest => do
      let second ← both lookup (idle || first.value = 0) bound first.bindings rest
      .ok { second with value := truth (first.value ≠ 0 && second.value ≠ 0) }
    | _ => .ok first

def operation (lookup : Lookup) (idle : Bool) : Nat → Nat → Bindings → List Token →
    Except Fault Progress
  | 0, _, _, _ => .error .primary
  | bound + 1, least, bindings, tokens => do
    let first ← operand lookup idle bound bindings tokens
    operations lookup idle bound least first

def operations (lookup : Lookup) (idle : Bool) : Nat → Nat → Progress → Except Fault Progress
  | 0, _, progress => .ok progress
  | bound + 1, least, progress =>
    match progress.rest with
    | .operator text :: rest =>
      match power text with
      | some strength =>
        if least ≤ strength then do
          let right ← operation lookup idle bound (strength + 1) progress.bindings rest
          let value ← if idle then .ok right.value else apply text progress.value right.value
          operations lookup idle bound least { right with value }
        else .ok progress
      | none => .ok progress
    | _ => .ok progress

def operand (lookup : Lookup) (idle : Bool) : Nat → Bindings → List Token →
    Except Fault Progress
  | 0, _, _ => .error .primary
  | bound + 1, bindings, tokens =>
    match tokens with
    | .number value :: rest => .ok ⟨value, rest, bindings⟩
    | .name text :: rest => do
      let value ← if idle then .ok 0 else (bindings.lookup text).elim (lookup text) .ok
      .ok ⟨value, rest, bindings⟩
    | .operator "(" :: rest => do
      let inner ← assignment lookup idle bound bindings rest
      match inner.rest with
      | .operator ")" :: more => .ok { inner with rest := more }
      | _ => .error .parenthesis
    | .operator "-" :: rest => do
      let inner ← operand lookup idle bound bindings rest
      .ok { inner with value := wrapped (-inner.value) }
    | .operator "+" :: rest => operand lookup idle bound bindings rest
    | .operator "!" :: rest => do
      let inner ← operand lookup idle bound bindings rest
      .ok { inner with value := truth (inner.value = 0) }
    | .operator "~" :: rest => do
      let inner ← operand lookup idle bound bindings rest
      .ok { inner with value := -inner.value - 1 }
    | _ => .error .primary

end

def evaluate (lookup : Lookup) (characters : List Char) : Except Fault (Int × Bindings) :=
  let list := tokens (characters.length + 1) characters
  if list.isEmpty then .ok (0, [])
  else
    match assignment lookup false (8 * list.length + 8) [] list with
    | .error fault => .error fault
    | .ok ⟨value, [], bindings⟩ => .ok (value, bindings)
    | .ok _ => .error .endOfText

def integer? (text : String) : Option Int :=
  let trimmed := ((text.toList.dropWhile Char.isWhitespace).reverse.dropWhile
    Char.isWhitespace).reverse
  let (negative, digits) := match trimmed with
    | '-' :: rest => (true, rest)
    | '+' :: rest => (false, rest)
    | _ => (false, trimmed)
  let (value, rest) := leadingNumber digits
  if trimmed.isEmpty then some 0
  else if digits.isEmpty || !rest.isEmpty then none
  else if negative then (if value ≤ largest + 1 then some (-(value : Int)) else none)
  else if value ≤ largest then some value
  else none

end ChartManifests.Shell.Arithmetic
