import ChartManifests.Program.Printing
import ChartManifests.Program.State
/-!
Conditions that `test` decides: on texts, on numbers, and on what stands in the tree of files.
-/

namespace ChartManifests.Program

structure Scene where
  files : Files
  current : Location

def State.scene (state : State) : Scene := ⟨state.files, state.current⟩

inductive ConditionFault
  | number (text : String)
  | extra (text : String)
  | lacksOperand (text : String)
  | noUnary (text : String)
  | noBinary (text : String)
  | unclosed (found : Option String)
  | bracket
deriving DecidableEq, Repr

def ConditionFault.message (dialect : Dialect) (fault : ConditionFault) : String :=
  let quoted (text : String) : String := "'" ++ text ++ "'"
  match dialect, fault with
  | .shell, .number text => "Illegal number: " ++ text
  | _, .number text => "invalid integer " ++ quoted text
  | .shell, .extra text => text ++ ": unexpected operator"
  | _, .extra text => "extra argument " ++ quoted text
  | .shell, .lacksOperand text => text ++ ": argument expected"
  | _, .lacksOperand text => "missing argument after " ++ quoted text
  | _, .noUnary text => quoted text ++ ": unary operator expected"
  | _, .noBinary text => quoted text ++ ": binary operator expected"
  | .shell, .unclosed _ => "closing paren expected"
  | _, .unclosed none => "')' expected"
  | _, .unclosed (some found) => "')' expected, found " ++ quoted found
  | .shell, .bracket => "missing ]"
  | _, .bracket => "missing ']'"

namespace Condition

/-- The whole number that a text spells, with blanks around it and a sign allowed. The shell only
knows numbers of 64 bits. -/
def number (dialect : Dialect) (text : String) : Except ConditionFault Int :=
  let isBlank (character : Char) : Bool := character.isWhitespace
  let trimmed := ((text.toList.dropWhile isBlank).reverse.dropWhile isBlank).reverse
  let (negative, digits) := match trimmed with
    | '-' :: rest => (true, rest)
    | '+' :: rest => (false, rest)
    | _ => (false, trimmed)
  if digits.isEmpty || !digits.all Char.isDigit then .error (.number text)
  else
    let size : Int := ((String.ofList digits).toNat?.getD 0 : Nat)
    let value := if negative then -size else size
    if dialect = .shell ∧ (value < -(2 ^ 63) ∨ 2 ^ 63 ≤ value) then .error (.number text)
    else .ok value

def number? (scene : Scene) (path : String) : Option Nat :=
  match scene.files.find scene.current path with
  | .ok (location, _) => scene.files.number? location
  | .error _ => none

def node? (scene : Scene) (path : String) : Option Node :=
  (number? scene path).bind fun number => scene.files.nodes[number]?

def isLink (scene : Scene) (path : String) : Bool :=
  match scene.files.findItself scene.current path with
  | .ok (_, .link _) => true
  | _ => false

def isNewer (dialect : Dialect) : Option Node → Option Node → Bool
  | some first, some second => first.isNewer second
  | some _, none => dialect ≠ .shell
  | none, _ => false

def isOfKind (operator : String) : Entry → Bool
  | .directory => operator = "-d"
  | .file _ | .utility _ => operator = "-f"
  | .device _ => operator = "-c"
  | .queue => operator = "-p"
  | .link _ => false

def hasContent : Entry → Bool
  | .file content => !content.isEmpty
  | .device _ | .queue => false
  | _ => true

def unaries (dialect : Dialect) : List String :=
  ["-n", "-z", "-e", "-r", "-w", "-x", "-f", "-d", "-s", "-c", "-b", "-p", "-S", "-h", "-L", "-g",
    "-u", "-k", "-t", "-O", "-G"] ++ (if dialect = .standalone then ["-N"] else [])

def unary (dialect : Dialect) (scene : Scene) (operator operand : String) :
    Except ConditionFault Bool :=
  let stands := node? scene operand
  let hasBit (bit : Nat) : Bool := (stands.map Node.mode).any fun mode => mode &&& bit ≠ 0
  match operator with
  | "-n" => .ok (operand ≠ "")
  | "-z" => .ok (operand = "")
  | "-e" | "-r" | "-w" | "-O" | "-G" => .ok stands.isSome
  | "-f" | "-d" | "-c" | "-p" => .ok ((stands.map Node.entry).any (isOfKind operator))
  | "-s" => .ok ((stands.map Node.entry).any hasContent)
  | "-x" => .ok ((stands.map Node.mode).any Permission.allowsRunning)
  | "-h" | "-L" => .ok (isLink scene operand)
  | "-u" => .ok (hasBit 0o4000)
  | "-g" => .ok (hasBit 0o2000)
  | "-k" => .ok (hasBit 0o1000)
  | "-t" => do
    let _ ← number dialect operand
    .ok false
  | _ => .ok false

def binaries (dialect : Dialect) : List String :=
  ["=", "!=", "-eq", "-ne", "-lt", "-le", "-gt", "-ge", "-nt", "-ot", "-ef"]
    ++ (match dialect with
      | .shell => ["<", ">"]
      | _ => ["=="])

def binary (dialect : Dialect) (scene : Scene) (left operator right : String) :
    Except ConditionFault Bool := do
  let compare (holds : Int → Int → Bool) : Except ConditionFault Bool := do
    let first ← number dialect left
    let second ← number dialect right
    .ok (holds first second)
  let (first, second) := (node? scene left, node? scene right)
  match operator with
  | "-ef" => .ok ((number? scene left).isSome && number? scene left = number? scene right)
  | "-nt" => .ok (isNewer dialect first second)
  | "-ot" => .ok (isNewer dialect second first)
  | "!=" => .ok (left ≠ right)
  | "<" => .ok (left < right)
  | ">" => .ok (right < left)
  | "-eq" => compare fun first second => first = second
  | "-ne" => compare fun first second => first ≠ second
  | "-lt" => compare fun first second => first < second
  | "-le" => compare fun first second => first ≤ second
  | "-gt" => compare fun first second => first > second
  | "-ge" => compare fun first second => first ≥ second
  | _ => .ok (left = right)

inductive Token
  | finished
  | operand
  | negation
  | opening
  | closing
  | conjunction
  | disjunction
  | unary
  | binary
deriving DecidableEq, Repr

def tokenOf : List String → Token
  | [] => .finished
  | word :: rest =>
    if (unaries .shell).contains word then
      match rest with
      | [] => .operand
      | [_] => .unary
      | next :: _ => if (binaries .shell).contains next then .operand else .unary
    else if (binaries .shell).contains word then .binary
    else
      match word with
      | "!" => .negation
      | "(" => if rest.isEmpty then .operand else .opening
      | ")" => .closing
      | "-a" => .conjunction
      | "-o" => .disjunction
      | _ => .operand

mutual

/-- Decides conditions with `-o` between them as the shell does: the first word is taken for a given
token. What is left begins with the last word that was used. -/
def either (scene : Scene) : Nat → Token → List String → Except ConditionFault (Bool × List String)
  | 0, _, words => .ok (false, words)
  | bound + 1, token, words => do
    let (first, used) ← both scene bound token words
    if tokenOf (used.drop 1) = .disjunction then
      let (second, last) ← either scene bound (tokenOf (used.drop 2)) (used.drop 2)
      .ok (first || second, last)
    else .ok (first, used)

def both (scene : Scene) : Nat → Token → List String → Except ConditionFault (Bool × List String)
  | 0, _, words => .ok (false, words)
  | bound + 1, token, words => do
    let (first, used) ← single scene bound token words
    if tokenOf (used.drop 1) = .conjunction then
      let (second, last) ← both scene bound (tokenOf (used.drop 2)) (used.drop 2)
      .ok (first && second, last)
    else .ok (first, used)

def single (scene : Scene) : Nat → Token → List String → Except ConditionFault (Bool × List String)
  | 0, _, words => .ok (false, words)
  | bound + 1, token, words =>
    match token, words with
    | .finished, _ => .ok (false, words)
    | _, [] => .ok (false, [])
    | .negation, _ :: rest => do
      let next := tokenOf rest
      let (holds, last) ← single scene bound next (if next = .finished then words else rest)
      .ok (!holds, last)
    | .opening, _ :: rest =>
      let next := tokenOf rest
      if next = .closing then .ok (false, rest)
      else do
        let (holds, used) ← either scene bound next rest
        let last := used.drop 1
        if tokenOf last = .closing then .ok (holds, last) else .error (.unclosed none)
    | .unary, operator :: rest =>
      match rest with
      | [] => .error (.lacksOperand operator)
      | operand :: _ => do .ok (← unary .shell scene operator operand, rest)
    | _, word :: rest =>
      if tokenOf rest = .binary then
        match rest with
        | operator :: operand :: more => do
          .ok (← binary .shell scene word operator operand, operand :: more)
        | _ => .error (.lacksOperand (rest.headD ""))
      else .ok (word ≠ "", words)

end

def decided (scene : Scene) (token : Token) (words : List String) : Except ConditionFault Bool := do
  let (holds, used) ← either scene (8 * words.length + 8) token words
  match used with
  | word :: _ :: _ => .error (.extra word)
  | _ => .ok holds

def shellHolds (scene : Scene) (words : List String) : Except ConditionFault Bool :=
  let plain (words : List String) : Except ConditionFault Bool := match words with
    | [] => .ok false
    | _ => decided scene (tokenOf words) words
  match words with
  | [first, second, third] =>
    if (binaries .shell).contains second then decided scene .operand words
    else if first = "(" ∧ third = ")" then plain [second]
    else if first = "!" then do .ok (!(← plain [second, third]))
    else plain words
  | [first, second, third, fourth] =>
    if first = "(" ∧ fourth = ")" then plain [second, third]
    else if first = "!" then do
      let rest := [second, third, fourth]
      if (binaries .shell).contains third then do .ok (!(← decided scene .operand rest))
      else if second = "(" ∧ fourth = ")" then do .ok (!(← plain [third]))
      else if second = "!" then do .ok (!(← plain [third, fourth]))
      else do .ok (!(← plain rest))
    else plain words
  | _ => plain words

def isDashed (word : String) : Bool := word.toList.head? = some '-' && word.length = 2

def dashed (scene : Scene) (last : String) :
    List String → Except ConditionFault (Bool × List String)
  | operator :: rest =>
    if !(unaries .standalone).contains operator then .error (.noUnary operator)
    else
      match rest with
      | [] => .error (.lacksOperand last)
      | operand :: more => do .ok (← unary .standalone scene operator operand, more)
  | [] => .error (.lacksOperand last)

mutual

/-- Decides as many words as given, as a program by itself does; `last` is the last word of all.
What is left is what was not used. -/
def counted (scene : Scene) (last : String) :
    Nat → Nat → List String → Except ConditionFault (Bool × List String)
  | 0, _, words => .ok (false, words)
  | bound + 1, count, words =>
    match count, words with
    | 1, word :: rest => .ok (word ≠ "", rest)
    | 2, first :: rest =>
      if first = "!" then do
        match rest with
        | word :: more => .ok (word = "", more)
        | [] => .error (.lacksOperand last)
      else if isDashed first then dashed scene last words
      else .error (.lacksOperand last)
    | 3, first :: second :: rest =>
      if (binaries .standalone).contains second then
        match rest with
        | operand :: more => do .ok (← binary .standalone scene first second operand, more)
        | [] => .error (.lacksOperand last)
      else if first = "!" then do
        let (holds, more) ← counted scene last bound 2 (second :: rest)
        .ok (!holds, more)
      else if first = "(" ∧ rest.head? = some ")" then .ok (second ≠ "", rest.drop 1)
      else if second = "-a" ∨ second = "-o" then alternatives scene last bound words
      else .error (.noBinary second)
    | 4, first :: rest =>
      if first = "!" then do
        let (holds, more) ← counted scene last bound 3 rest
        .ok (!holds, more)
      else if first = "(" ∧ rest[2]? = some ")" then do
        let (holds, more) ← counted scene last bound 2 rest
        .ok (holds, more.drop 1)
      else alternatives scene last bound words
    | _, _ => alternatives scene last bound words

def alternatives (scene : Scene) (last : String) :
    Nat → List String → Except ConditionFault (Bool × List String)
  | 0, words => .ok (false, words)
  | bound + 1, words => do
    let (first, rest) ← conjuncts scene last bound words
    match rest with
    | "-o" :: more =>
      let (second, left) ← alternatives scene last bound more
      .ok (first || second, left)
    | _ => .ok (first, rest)

def conjuncts (scene : Scene) (last : String) :
    Nat → List String → Except ConditionFault (Bool × List String)
  | 0, words => .ok (false, words)
  | bound + 1, words => do
    let (first, rest) ← term scene last bound words
    match rest with
    | "-a" :: more =>
      let (second, left) ← conjuncts scene last bound more
      .ok (first && second, left)
    | _ => .ok (first, rest)

def term (scene : Scene) (last : String) :
    Nat → List String → Except ConditionFault (Bool × List String)
  | 0, words => .ok (false, words)
  | bound + 1, words =>
    match words with
    | [] => .error (.lacksOperand last)
    | "!" :: rest =>
      if rest.isEmpty then .error (.lacksOperand last)
      else do
        let (holds, more) ← term scene last bound rest
        .ok (!holds, more)
    | "(" :: rest =>
      if rest.isEmpty then .error (.lacksOperand last)
      else do
        let inner := 1 + ((rest.drop 1).takeWhile (· ≠ ")")).length
        let (holds, more) ← counted scene last bound (if 4 < inner then rest.length else inner) rest
        match more with
        | [] => .error (.unclosed none)
        | ")" :: left => .ok (holds, left)
        | word :: _ => .error (.unclosed (some word))
    | first :: second :: third :: more =>
      if (binaries .standalone).contains second then do
        .ok (← binary .standalone scene first second third, more)
      else if isDashed first then dashed scene last words
      else .ok (first ≠ "", second :: third :: more)
    | first :: rest => if isDashed first then dashed scene last words else .ok (first ≠ "", rest)

end

def standaloneHolds (scene : Scene) (words : List String) : Except ConditionFault Bool :=
  if words.isEmpty then .ok false
  else do
    let (holds, rest) ← counted scene (words.getLast?.getD "") (8 * words.length + 8)
      words.length words
    match rest with
    | [] => .ok holds
    | word :: _ => .error (.extra word)

def holds : Dialect → Scene → List String → Except ConditionFault Bool
  | .shell => shellHolds
  | _ => standaloneHolds

end Condition

end ChartManifests.Program
