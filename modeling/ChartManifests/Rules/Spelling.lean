import ChartManifests.Text.Expression
import ChartManifests.Rules.Token
/-!
Regular expressions as rules spell them. They are like the extended ones, but the escapes of texts
are known in them, between brackets too, and a brace stands for itself.
-/

namespace ChartManifests.Rules

open Text (Expression Member)

inductive PatternFault
  | missingClosing
  | missingOpening
  | badClass
  | missingOperand
deriving DecidableEq, Repr

def PatternFault.message : PatternFault → String
  | missingClosing => "missing ')'"
  | missingOpening => "missing '('"
  | badClass => "bad class -- [], [^] or ["
  | missingOperand => "missing operand"

def escapedCharacter (characters : List Char) : Char × List Char :=
  match escapeOf characters with
  | some found => found
  | none => (characters.headD '\\', characters.drop 1)

def setCharacter : List Char → Char × List Char
  | '\\' :: rest => if rest = [] then ('\\', []) else escapedCharacter rest
  | character :: rest => (character, rest)
  | [] => ('\x00', [])

/-- The members of a set up to the bracket that closes it; `first` tells that nothing was read yet,
so that a bracket is a member. -/
def setMembers : Nat → Bool → List Char → Except PatternFault (List Member × List Char)
  | 0, _, _ | _ + 1, _, [] => .error .badClass
  | bound + 1, first, characters =>
    match characters with
    | '[' :: ':' :: more =>
      let name := String.ofList (more.takeWhile (· ≠ ':'))
      let behind := more.drop name.length
      if Text.classNames.contains name && [':', ']'].isPrefixOf behind then do
        let (others, last) ← setMembers bound false (behind.drop 2)
        .ok (.classOf name :: others, last)
      else do
        let (others, last) ← setMembers bound false (':' :: more)
        .ok (.range '[' '[' :: others, last)
    | ']' :: rest =>
      if first then do
        let (others, last) ← setMembers bound false rest
        .ok (.range ']' ']' :: others, last)
      else .ok ([], rest)
    | _ => do
      let (low, behind) := setCharacter characters
      match behind with
      | '-' :: next :: more =>
        if next = ']' then do
          let (others, last) ← setMembers bound false behind
          .ok (.range low low :: others, last)
        else do
          let (high, after) := setCharacter (next :: more)
          let (others, last) ← setMembers bound false after
          .ok (.range low high :: others, last)
      | _ => do
        let (others, last) ← setMembers bound false behind
        .ok (.range low low :: others, last)

def repeated : Nat → Expression → List Char → Expression × List Char
  | 0, body, characters => (body, characters)
  | bound + 1, body, characters =>
    match characters with
    | '*' :: rest => repeated bound (.repeated 0 none body) rest
    | '+' :: rest => repeated bound (.repeated 1 none body) rest
    | '?' :: rest => repeated bound (.repeated 0 (some 1) body) rest
    | _ => (body, characters)

mutual

def choices : Nat → Bool → List Char → Except PatternFault (Expression × List Char)
  | 0, _, characters => .ok (.nothing, characters)
  | bound + 1, inside, characters => do
    let (first, behind) ← sequenceOf bound inside true characters
    let isEmpty := behind.length = characters.length
    match behind with
    | '|' :: rest =>
      if isEmpty || rest = [] then .error .missingOperand
      else
        let (second, last) ← choices bound inside rest
        .ok (.either first second, last)
    | _ => if isEmpty && inside then .error .missingOperand else .ok (first, behind)

def sequenceOf : Nat → Bool → Bool → List Char → Except PatternFault (Expression × List Char)
  | 0, _, _, characters => .ok (.nothing, characters)
  | bound + 1, inside, first, characters => do
    let follow (one : Expression) (rest : List Char) :
        Except PatternFault (Expression × List Char) :=
      do
        let (whole, behind) := repeated rest.length one rest
        let (others, last) ← sequenceOf bound inside false behind
        .ok (.both whole others, last)
    match characters with
    | [] | '|' :: _ => .ok (.nothing, characters)
    | ')' :: rest => if inside then .ok (.nothing, characters) else follow (.exactly ')') rest
    | ['('] => .error .missingClosing
    | '(' :: rest =>
      let (body, behind) ← choices bound true rest
      match behind with
      | ')' :: after => follow (.group 1 body) after
      | _ => .error .missingClosing
    | '[' :: rest =>
      let (negated, inner) := match rest with
        | '^' :: more => (true, more)
        | _ => (false, rest)
      let (members, after) ← setMembers (inner.length + 1) true inner
      follow (.oneOf negated members) after
    | '.' :: rest => follow .anyCharacter rest
    | '^' :: rest => follow (.edge .start) rest
    | '$' :: rest => follow (.edge .finish) rest
    | '\\' :: rest =>
      if rest = [] then follow (.exactly '\\') []
      else
        let (character, after) := escapedCharacter rest
        follow (.exactly character) after
    | character :: rest =>
      if first && ['*', '+', '?'].contains character then .error .missingOperand
      else follow (.exactly character) rest

end

def expressionOf (text : String) : Except PatternFault Expression := do
  let characters := text.toList
  let (expression, rest) ← choices (4 * characters.length + 8) false characters
  if rest = [] then .ok expression else .error .missingOpening

end ChartManifests.Rules
