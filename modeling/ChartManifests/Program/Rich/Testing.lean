import ChartManifests.Program.Rich.Basic
import ChartManifests.Text.Expression.Reader
/-!
Conditions of the rich shell, as its utility `test` decides them by the number of their words, and
as they are asked between double brackets.
-/

namespace ChartManifests.Program.Rich

inductive TestFault
  | unary (word : String)
  | binary (word : String)
  | integer (word : String)
  | argument
  | unclosed (found : Option String)
  | misplaced (word : String)
  | tooMany
  | bracket
deriving DecidableEq, Repr

def TestFault.message : TestFault → String
  | unary word => word ++ ": unary operator expected"
  | binary word => word ++ ": binary operator expected"
  | integer word => word ++ ": integer expression expected"
  | argument => "argument expected"
  | unclosed none => "`)' expected"
  | unclosed (some found) => "`)' expected, found " ++ found
  | misplaced word => "syntax error: `" ++ word ++ "' unexpected"
  | tooMany => "too many arguments"
  | bracket => "missing `]'"

def isKnown (state : State) (word : String) : Bool :=
  let named := Calculation.placeOf word none
  let place := Calculation.target state named
  match place.subscript with
  | some "@" | some "*" => !(state.entriesOf place.name).isEmpty
  | some _ =>
    match Calculation.key state place with
    | .ok (some key, _) =>
      ((state.contentOf place.name).bind fun content => content.item? key).isSome
    | _ => false
  | none =>
    ((state.contentOf place.name).bind Content.first?).isSome
      || (place.name.toList.all Char.isDigit && (parameterValue state place.name).isSome)

def unaryHolds (state : State) (operator operand : String) : Except TestFault Bool :=
  match operator with
  | "-v" => .ok (isKnown state operand)
  | "-o" => .ok (isSet state operand)
  | "-R" => .ok ((state.find operand).any fun parameter => parameter.refers)
  | "-t" =>
    match integer? operand with
    | some _ => .ok false
    | none => .error (.integer operand)
  | _ =>
    let asked := if operator = "-a" then "-e" else operator
    match Condition.unary .standalone state.scene asked operand with
    | .ok holds => .ok holds
    | .error _ => .ok false

def compareNumbers (operator : String) (first second : Int) : Bool :=
  match operator with
  | "-eq" => first = second
  | "-ne" => first ≠ second
  | "-lt" => first < second
  | "-le" => first ≤ second
  | "-gt" => second < first
  | _ => second ≤ first

def isNumeric (operator : String) : Bool :=
  ["-eq", "-ne", "-lt", "-le", "-gt", "-ge"].contains operator

def binaryHolds (state : State) (left operator right : String) : Except TestFault Bool :=
  if isNumeric operator then
    match integer? left, integer? right with
    | some first, some second => .ok (compareNumbers operator first second)
    | none, _ => .error (.integer left)
    | _, none => .error (.integer right)
  else
    match Condition.binary .standalone state.scene left operator right with
    | .ok holds => .ok holds
    | .error _ => .ok false

def binaries : List String :=
  ["=", "==", "!=", "<", ">", "-eq", "-ne", "-lt", "-le", "-gt", "-ge", "-nt", "-ot", "-ef"]

def twoHold (state : State) (first second : String) : Except TestFault Bool :=
  if first = "!" then .ok (second = "")
  else if Shell.unaryTests.contains first then unaryHolds state first second
  else .error (.unary first)

def threeHold (state : State) (first second third : String) : Except TestFault Bool :=
  if binaries.contains second then binaryHolds state first second third
  else if second = "-a" then .ok (first ≠ "" && third ≠ "")
  else if second = "-o" then .ok (first ≠ "" || third ≠ "")
  else if first = "!" then (twoHold state second third).map (!·)
  else if first = "(" ∧ third = ")" then .ok (second ≠ "")
  else .error (.binary second)

mutual

def alternatives (state : State) (last : Option String) :
    Nat → List String → Except TestFault (Bool × List String)
  | 0, words => .ok (false, words)
  | bound + 1, words => do
    let (first, rest) ← conjuncts state last bound words
    match rest with
    | "-o" :: more => do
      let (second, left) ← alternatives state last bound more
      .ok (first || second, left)
    | _ => .ok (first, rest)

def conjuncts (state : State) (last : Option String) :
    Nat → List String → Except TestFault (Bool × List String)
  | 0, words => .ok (false, words)
  | bound + 1, words => do
    let (first, rest) ← term state last bound words
    match rest with
    | "-a" :: more => do
      let (second, left) ← conjuncts state last bound more
      .ok (first && second, left)
    | _ => .ok (first, rest)

def term (state : State) (last : Option String) :
    Nat → List String → Except TestFault (Bool × List String)
  | 0, words => .ok (false, words)
  | bound + 1, words =>
    match words with
    | [] => .error .argument
    | "!" :: rest => do
      let (holds, left) ← term state last bound rest
      .ok (!holds, left)
    | "(" :: rest => do
      let (holds, left) ← alternatives state last bound rest
      match left with
      | ")" :: more => .ok (holds, more)
      | word :: _ => .error (.unclosed (some word))
      | [] => .error (.unclosed last)
    | first :: rest =>
      match rest with
      | second :: third :: more =>
        if binaries.contains second then do
          .ok (← binaryHolds state first second third, more)
        else if Shell.unaryTests.contains first then do
          .ok (← unaryHolds state first second, third :: more)
        else .ok (first ≠ "", rest)
      | [second] =>
        if Shell.unaryTests.contains first then do .ok (← unaryHolds state first second, [])
        else .ok (first ≠ "", rest)
      | [] => .ok (first ≠ "", [])

end

def wordsHold (state : State) (last : Option String) (words : List String) :
    Except TestFault Bool :=
  let general : Except TestFault Bool := do
    let (holds, left) ← alternatives state last (4 * words.length + 8) words
    match left with
    | [] => .ok holds
    | word :: _ =>
      if word.toList.head? = some '-' then .error (.misplaced word) else .error .tooMany
  match words with
  | [] => .ok false
  | [word] => .ok (word ≠ "")
  | [first, second] => twoHold state first second
  | [first, second, third] => threeHold state first second third
  | [first, second, third, fourth] =>
    if first = "!" then (threeHold state second third fourth).map (!·)
    else if first = "(" ∧ fourth = ")" then twoHold state second third
    else general
  | _ => general

def test (name : String) (arguments : List String) : Run Nat := do
  let state ← get
  let decided : Except TestFault Bool :=
    if name = "[" then
      if arguments.getLast? = some "]" then wordsHold state (some "]") arguments.dropLast
      else .error .bracket
    else wordsHold state none arguments
  match decided with
  | .ok holds => pure (if holds then 0 else 1)
  | .error fault => failing name fault.message 2

def withoutCase (folds : Bool) (characters : List Char) : List Char :=
  if folds then characters.map Char.toLower else characters

def fitsText (folds : Bool) (pattern : List Shell.Mark) (text : String) : Bool :=
  let marks := if folds then pattern.map fun mark => (mark.1.toLower, mark.2) else pattern
  Shell.fits (Shell.groupPatternOf marks) (withoutCase folds text.toList)

def expressionText (marks : List Shell.Mark) : List Char :=
  marks.flatMap fun (character, quoted) =>
    if quoted && "\\^$.|?*+()[]\x7b\x7d".toList.contains character then ['\\', character]
    else [character]

def foundIn (folds : Bool) (marks : List Shell.Mark) (text : String) :
    Option (Option (List String)) :=
  match Text.Expression.read (.strict false) (expressionText marks) with
  | .error _ => none
  | .ok (expression, groups) =>
    some ((expression.find folds [] text.toList).map fun found =>
      String.ofList found.matched :: (List.range groups).map fun index =>
        ((found.held.lookup (index + 1)).map String.ofList).getD "")

end ChartManifests.Program.Rich
