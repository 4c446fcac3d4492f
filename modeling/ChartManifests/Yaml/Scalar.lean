import ChartManifests.Number.Numeral
import ChartManifests.Text.Base64
import ChartManifests.Text.LowerCase
import ChartManifests.Text.Split
import ChartManifests.Value
import ChartManifests.Yaml.Form
/-!
The values of scalars. The tag tells how the text is read, and a text that the tag does not allow
is a fault.
-/

namespace ChartManifests.Yaml.Scalar

open Text

def colon : CodePoint := ':'

def dropBars (text : Text) : Text := text.filter (· ≠ '_')

def splitSign : Text → Bool × Text
  | [] => (false, [])
  | first :: rest =>
    if first = '-' then (true, rest)
    else if first = '+' then (false, rest)
    else (false, first :: rest)

def startsWith (beginning text : Text) : Bool := beginning.isPrefixOf text

def integerTo (base : Nat) (text : Text) : Except ScalarFault Int :=
  let count := Numeral.leadingDigits text
  if base = 10 ∧ Numeral.digitLimit < count then .error (.tooManyDigits count)
  else
    match Numeral.integer? base text with
    | some integer => .ok integer
    | none => .error (.integer base text)

def sexagesimal (parts : List Int) : Int := parts.foldl (fun total part => total * 60 + part) 0

def unsignedInteger (text : Text) : Except ScalarFault Int :=
  if text = [] then .error .noDigits
  else if text = "0" then .ok 0
  else if startsWith "0b" text then integerTo 2 (text.drop 2)
  else if startsWith "0x" text then integerTo 16 (text.drop 2)
  else if startsWith "0" text then integerTo 8 text
  else if text.contains colon then do
    .ok (sexagesimal (← (splitAt colon text).mapM (integerTo 10)))
  else integerTo 10 text

def integer (text : Text) : Except ScalarFault Int := do
  let (negative, digits) := splitSign (dropBars text)
  let magnitude ← unsignedInteger digits
  .ok (if negative then -magnitude else magnitude)

def doubleOf (text : Text) : Except ScalarFault Double :=
  match Numeral.double? text with
  | some double => .ok double
  | none => .error (.double text)

def addPlaces (total : Double) (scale : Nat) : List Double → Except ScalarFault Double
  | [] => .ok total
  | place :: rest =>
    let factor := Double.ofInt scale
    if factor = .infinity false then .error .doubleRange
    else addPlaces (total.add (place.mul factor)) (scale * 60) rest

def undefinedName : Text := ".nan"

def unsignedDouble (text : Text) : Except ScalarFault Double :=
  if text = ".inf" then .ok (.infinity false)
  else if text = undefinedName then .ok .notANumber
  else if text.contains colon then do
    let places ← (splitAt colon text).mapM doubleOf
    addPlaces (.ofZero false) 1 places.reverse
  else doubleOf text

/-- The value of a number with a point. One that is no number is the same under its name in every
place; written otherwise it is another one in every node. -/
def double (node : Nat) (text : Text) : Except ScalarFault Value :=
  let plain := lower (dropBars text)
  if plain = [] then .error .noDigits
  else do
    let (negative, digits) := splitSign plain
    let magnitude ← unsignedDouble digits
    if magnitude.isUndefined then
      .ok (.undefined (some (if digits = undefinedName then 0 else node + 1)))
    else .ok (.double (if negative then magnitude.mul (.ofInt (-1)) else magnitude))

def truth (text : Text) : Except ScalarFault Bool :=
  let name := lower text
  if name = "yes" ∨ name = "true" ∨ name = "on" then .ok true
  else if name = "no" ∨ name = "false" ∨ name = "off" then .ok false
  else .error (.truth name)

def timestamp (text : Text) : Except ScalarFault Value :=
  match text.chars?.bind fun characters =>
      Timestamp.parse? (Form.dropLineFeed characters) with
  | none => .error .timestamp
  | some written =>
    match written.denoted with
    | .ok (.inl day) => .ok (.date day)
    | .ok (.inr time) => .ok (.moment time)
    | .error fault => .error (.calendar fault)

def binary (text : Text) : Except Fault Value :=
  let ascii? := text.chars?.filter fun characters => characters.all (·.toNat < 0x80)
  match ascii?.bind Base64.decode? with
  | some bytes => .ok (.bytes bytes)
  | none => .error .malformed

def lift {α : Type} (result : Except ScalarFault α) (make : α → Value) : Except Fault Value :=
  match result with
  | .ok content => .ok (make content)
  | .error fault => .error (.scalar fault)

def value (tag : Tag) (node : Nat) (text : Text) : Except Fault Value :=
  match tag with
  | .null => .ok .null
  | .boolean => lift (truth text) .boolean
  | .integer => lift (integer text) .integer
  | .double => lift (double node text) id
  | .timestamp => lift (timestamp text) id
  | .binary => binary text
  | .text => .ok (.text text)
  | _ => .error .malformed

end ChartManifests.Yaml.Scalar
