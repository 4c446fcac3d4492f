import ChartManifests.Program.Utility.Basic
import ChartManifests.Text.Utf8
import ChartManifests.Text.Expression.Reader
/-!
The utility that works out an expression, each of whose signs and operands is an argument. Operands
are texts, or whole numbers where they are to be calculated with.
-/

namespace ChartManifests.Program.Utility

open Text (Expression)

inductive SumFault
  | missingBehind (word : String)
  | unexpected (word : String)
  | unexpectedClosing
  | unclosedBehind (word : String)
  | unclosedAt (word : String)
  | noNumber
  | divisionByZero
  | pattern (fault : Expression.Fault)
deriving DecidableEq, Repr

def SumFault.message : SumFault → String
  | missingBehind word => "syntax error: missing argument after " ++ Text.quotedWord word
  | unexpected word => "syntax error: unexpected argument " ++ Text.quotedWord word
  | unexpectedClosing => "syntax error: unexpected ')'"
  | unclosedBehind word => "syntax error: expecting ')' after " ++ Text.quotedWord word
  | unclosedAt word => "syntax error: expecting ')' instead of " ++ Text.quotedWord word
  | noNumber => "non-integer argument"
  | divisionByZero => "division by zero"
  | pattern fault => fault.message

namespace Sum

def integer? (text : String) : Option Int :=
  let (negative, digits) := match text.toList with
    | '-' :: rest => (true, rest)
    | others => (false, others)
  if digits.isEmpty || !digits.all Char.isDigit then none
  else
    let value : Int := ((String.ofList digits).toNat?.getD 0 : Nat)
    some (if negative then -value else value)

def isNull (text : String) : Bool :=
  text = "" || integer? text = some 0

def calculated (operation : Int → Int → Except SumFault Int) (left right : String) :
    Except SumFault String := do
  match integer? left, integer? right with
  | some first, some second => do .ok (toString (← operation first second))
  | _, _ => .error .noNumber

def divided (operation : Int → Int → Int) (left right : Int) : Except SumFault Int :=
  if right = 0 then .error .divisionByZero else .ok (operation left right)

def matched (text pattern : String) : Except SumFault String :=
  match Expression.read .basic pattern.toList with
  | .error fault => .error (.pattern fault)
  | .ok (expression, groups) =>
    let whole := text.toList
    let found := (Expression.find false expression [] whole).filter (·.before.isEmpty)
    .ok (match found with
      | some found =>
        if 0 < groups then
          String.ofList ((found.held.lookup 1).getD [])
        else toString found.matched.length
      | none => if 0 < groups then "" else "0")

def compared (sign left right : String) : String :=
  let order := match integer? left, integer? right with
    | some first, some second => compare first second
    | _, _ => compare left right
  let holds : Bool := match sign with
    | "<" => order = .lt
    | "<=" => order ≠ .gt
    | "=" | "==" => order = .eq
    | "!=" => order ≠ .eq
    | ">=" => order ≠ .lt
    | _ => order = .gt
  if holds then "1" else "0"

def levels : List (List String) :=
  [["|"], ["&"], ["<", "<=", "=", "==", "!=", ">=", ">"], ["+", "-"], ["*", "/", "%"], [":"]]

def applied (sign left right : String) : Except SumFault String :=
  match sign with
  | "|" => .ok (if !isNull left then left else if isNull right then "0" else right)
  | "&" => .ok (if isNull left || isNull right then "0" else left)
  | "+" => calculated (fun first second => .ok (first + second)) left right
  | "-" => calculated (fun first second => .ok (first - second)) left right
  | "*" => calculated (fun first second => .ok (first * second)) left right
  | "/" => calculated (divided Int.tdiv) left right
  | "%" => calculated (divided Int.tmod) left right
  | ":" => matched left right
  | _ => .ok (compared sign left right)

def part (text place count : String) : String :=
  match integer? place, integer? count with
  | some place, some count =>
    if 0 < place ∧ 0 < count then
      String.ofList ((text.toList.drop (place.toNat - 1)).take count.toNat)
    else ""
  | _, _ => ""

def place (text set : String) : String :=
  let characters := text.toList
  let wanted := set.toList
  toString ((characters.findIdx? wanted.contains).elim 0 (· + 1))

mutual

def level (counts : Bool) : Nat → Nat → String → List String →
    Except SumFault (String × String × List String)
  | 0, _, last, _ => .error (.missingBehind last)
  | bound + 1, index, last, words =>
    match levels[index]? with
    | none => operand counts bound last words
    | some signs => do
      let (first, behind, rest) ← level counts bound (index + 1) last words
      more counts bound index signs first behind rest

def more (counts : Bool) : Nat → Nat → List String → String → String → List String →
    Except SumFault (String × String × List String)
  | 0, _, _, first, last, rest => .ok (first, last, rest)
  | bound + 1, index, signs, first, last, rest =>
    match rest with
    | [] => .ok (first, last, [])
    | sign :: others =>
      if !signs.contains sign then .ok (first, last, rest)
      else do
        let matters := counts && (match sign with
          | "|" => isNull first
          | "&" => !isNull first
          | _ => true)
        let (second, behind, left) ← level matters bound (index + 1) sign others
        let result ← if counts then applied sign first second else .ok first
        more counts bound index signs result behind left

def operand (counts : Bool) : Nat → String → List String →
    Except SumFault (String × String × List String)
  | 0, last, _ => .error (.missingBehind last)
  | bound + 1, last, words =>
    match words with
    | [] => .error (.missingBehind last)
    | "(" :: rest => do
      let (value, behind, left) ← level counts bound 0 "(" rest
      match left with
      | ")" :: others => .ok (value, ")", others)
      | [] => .error (.unclosedBehind behind)
      | word :: _ => .error (.unclosedAt word)
    | ")" :: _ => .error .unexpectedClosing
    | "+" :: rest =>
      match rest with
      | word :: others => .ok (word, word, others)
      | [] => .error (.missingBehind "+")
    | "length" :: rest => do
      let (text, behind, left) ← operand counts bound "length" rest
      .ok (toString text.toList.length, behind, left)
    | "match" :: rest => do
      let (text, behind, left) ← operand counts bound "match" rest
      let (pattern, after, others) ← operand counts bound behind left
      .ok (← matched text pattern, after, others)
    | "index" :: rest => do
      let (text, behind, left) ← operand counts bound "index" rest
      let (set, after, others) ← operand counts bound behind left
      .ok (place text set, after, others)
    | "substr" :: rest => do
      let (text, behind, left) ← operand counts bound "substr" rest
      let (start, after, others) ← operand counts bound behind left
      let (count, finish, last) ← operand counts bound after others
      .ok (part text start count, finish, last)
    | word :: rest => .ok (word, word, rest)

end

def value (words : List String) : Except SumFault String := do
  let (value, _, rest) ← level true (16 * words.length + 16) 0 "" words
  match rest with
  | [] => .ok value
  | word :: _ => .error (.unexpected word)

end Sum

def expr (arguments : List String) : Run Nat := do
  let words := if arguments.head? = some "--" then arguments.drop 1 else arguments
  if words.isEmpty then missing 2
  match Sum.value words with
  | .ok value => do
    putText (value ++ "\n")
    pure (if Sum.isNull value then 1 else 0)
  | .error fault => fail 2 fault.message

end ChartManifests.Program.Utility
