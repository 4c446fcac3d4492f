import ChartManifests.Shell.Arithmetic
/-!
The tokens of calculations of the rich shell. A token is taken off the text when it is needed, and
it depends on the one before it: a sign that stands twice counts up or down only beside a name.
-/

namespace ChartManifests.Shell.Calculation

open Arithmetic (wrapped)

/-- Why a calculation cannot be done: something in the text of an expression, a parameter without a
value that must have one, one that is closed to changes, or an item that cannot be. The token is the
text from where it was found. -/
inductive Fault
  | expression (whole reason token : String)
  | unbound (name : String)
  | fixed (name : String)
  | subscript (item : String)
deriving DecidableEq, Repr

def Fault.message : Fault → String
  | expression whole reason token =>
    String.ofList (whole.toList.dropWhile [' ', '\t'].contains) ++ ": " ++ reason
      ++ " (error token is \"" ++ token ++ "\")"
  | unbound name => name ++ ": unbound variable"
  | fixed name => name ++ ": readonly variable"
  | subscript item => item ++ ": bad array subscript"

structure Place where
  name : String
  subscript : Option String
deriving DecidableEq, Repr

def Place.text (place : Place) : String :=
  place.name ++ (match place.subscript with
    | some subscript => "[" ++ subscript ++ "]"
    | none => "")

inductive Token
  | finished
  | number (value : Int)
  | place (at_ : Place)
  | operator (text : String)
deriving DecidableEq, Repr

def longOperators : List String :=
  ["<<=", ">>=", "<<", ">>", "<=", ">=", "==", "!=", "&&", "||", "**", "*=", "/=", "%=", "+=",
    "-=", "&=", "^=", "|="]

def shortOperators : List Char := "+-*/%<>=!~&|^()?:,".toList

def isDigitOfAnyBase (character : Char) : Bool :=
  character.isAlphanum || character = '@' || character = '_'

def digitValue (base : Nat) (character : Char) : Nat :=
  if character.isDigit then character.toNat - '0'.toNat
  else if character.isLower then character.toNat - 'a'.toNat + 10
  else if character.isUpper then
    character.toNat - 'A'.toNat + (if base ≤ 36 then 10 else 36)
  else if character = '@' then 62 else 63

def numberIn (base : Nat) (digits : List Char) : Except String Int :=
  digits.foldlM (fun value digit =>
    let shown := digitValue base digit
    if base ≤ shown then .error "value too great for base"
    else .ok (wrapped (value * base + shown))) 0

def numberOf (characters : List Char) : Except String Int :=
  match characters with
  | ['0'] => .ok 0
  | '0' :: mark :: digits =>
    if mark = 'x' || mark = 'X' then
      if digits.contains '#' then .error "invalid number" else numberIn 16 digits
    else if (mark :: digits).contains '#' then .error "invalid number"
    else numberIn 8 (mark :: digits)
  | _ =>
    let front := characters.takeWhile (· ≠ '#')
    match characters.drop front.length with
    | [] => numberIn 10 front
    | _ :: digits => do
      let base ← numberIn 10 front
      if base < 2 || 64 < base then .error "invalid arithmetic base"
      else if digits.isEmpty then .error "invalid integer constant"
      else if digits.contains '#' then .error "invalid number"
      else numberIn base.toNat digits

def subscriptText : Nat → List Char → Option (List Char)
  | _, [] => none
  | 0, ']' :: _ => some []
  | depth + 1, ']' :: rest => (subscriptText depth rest).map (']' :: ·)
  | depth, '[' :: rest => (subscriptText (depth + 1) rest).map ('[' :: ·)
  | depth, character :: rest => (subscriptText depth rest).map (character :: ·)

structure Taken where
  token : Token
  here : List Char
  rest : List Char

def startsName (character : Char) : Bool := character.isAlpha || character = '_'

def continuesName (character : Char) : Bool := character.isAlphanum || character = '_'

structure Refusal where
  reason : String
  token : List Char

def take (before : Token) (characters : List Char) : Except Refusal Taken :=
  let here := characters.dropWhile Char.isWhitespace
  let operator (length : Nat) : Except Refusal Taken :=
    .ok ⟨.operator (String.ofList (here.take length)), here, here.drop length⟩
  match here with
  | [] => .ok ⟨.finished, [], []⟩
  | first :: more =>
    if startsName first then
      let name := here.takeWhile continuesName
      let behind := here.drop name.length
      match behind with
      | '[' :: inner =>
        match subscriptText 0 inner with
        | some subscript =>
          .ok ⟨.place ⟨String.ofList name, some (String.ofList subscript)⟩, here,
            inner.drop (subscript.length + 1)⟩
        | none => .error ⟨"bad array subscript", here⟩
      | _ => .ok ⟨.place ⟨String.ofList name, none⟩, here, behind⟩
    else if first.isDigit then
      let digits := here.takeWhile fun character =>
        isDigitOfAnyBase character || character = '#'
      match numberOf digits with
      | .ok value => .ok ⟨.number value, here, here.drop digits.length⟩
      | .error reason => .error ⟨reason, digits⟩
    else if (first = '+' || first = '-') && more.head? = some first then
      let behind := (more.drop 1).dropWhile Char.isWhitespace
      let counts := match before with
        | .place _ => true
        | _ => (behind.head?.map startsName).getD false
      operator (if counts then 2 else 1)
    else
      match longOperators.find? fun text => text.toList.isPrefixOf here with
      | some text => operator text.length
      | none =>
        if shortOperators.contains first then operator 1
        else
          let afterOperand := match before with
            | .number _ | .place _ => true
            | .operator _ | .finished => false
          .error ⟨if afterOperand then "syntax error: invalid arithmetic operator"
            else "syntax error: operand expected", here⟩

end ChartManifests.Shell.Calculation
