import ChartManifests.Failure
import ChartManifests.Text.CharacterClass
/-!
Versions in the output of a program: a `v`, then at least two numbers with dots between them. The
first one in the output counts, as far as it goes.
-/

namespace ChartManifests.Version

/-- What continues a version behind a digit: digits, and dots that have a digit behind them. -/
def continuation : List Char → List Char
  | [] => []
  | character :: rest =>
    if Text.isDigit character then character :: continuation rest
    else if character = '.' then
      match rest with
      | digit :: more =>
        if Text.isDigit digit then character :: digit :: continuation more else []
      | [] => []
    else []

def here? : List Char → Option (List Char)
  | 'v' :: digit :: rest =>
    let numbers := digit :: continuation rest
    if Text.isDigit digit ∧ '.' ∈ numbers then some numbers else none
  | _ => none

def first? : List Char → Option (List Char)
  | [] => none
  | character :: rest =>
    match here? (character :: rest) with
    | some numbers => some numbers
    | none => first? rest

def parse (output : List Char) : Except Failure String :=
  match first? output with
  | some numbers => .ok (String.ofList numbers)
  | none => .error (.noVersion (String.ofList (Text.trim output)))

def major (version : String) : String := String.ofList (version.toList.takeWhile (· ≠ '.'))

def supported (output : List Char) : Except Failure String := do
  let version ← parse output
  if major version = Failure.supportedMajor then .ok version
  else .error (.unsupportedVersion version)

end ChartManifests.Version
