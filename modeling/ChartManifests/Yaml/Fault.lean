import ChartManifests.Calendar
import ChartManifests.Number.Numeral
import ChartManifests.Text.Quoted
/-!
Why a text is no YAML document, or names a value that does not exist.
-/

namespace ChartManifests.Yaml

inductive ScalarFault
  | integer (base : Nat) (text : Text)
  | tooManyDigits (count : Nat)
  | double (text : Text)
  | doubleRange
  | noDigits
  | truth (text : Text)
  | timestamp
  | timestampEntries
  | calendar (fault : CalendarFault)
deriving DecidableEq, Repr

/-- Why a stream cannot be loaded: it breaks a rule of the format, an escape names no character,
or a scalar names no value. -/
inductive Fault
  | malformed
  | escape (code : Nat)
  | scalar (fault : ScalarFault)
deriving DecidableEq, Repr

def excerpt (text : Text) : String := String.ofList ((Text.quoted text).toList.take 200)

def ScalarFault.message : ScalarFault → String
  | .integer base text =>
    "invalid literal for int() with base " ++ toString base ++ ": " ++ excerpt text
  | .tooManyDigits count => Numeral.limitNotice (some count)
  | .double text => "could not convert string to float: " ++ Text.quoted text
  | .doubleRange => "int too large to convert to float"
  | .noDigits => "string index out of range"
  | .truth text => Text.quoted text
  | .timestamp => "'NoneType' object has no attribute 'groupdict'"
  | .timestampEntries => "expected string or bytes-like object, got 'list'"
  | .calendar fault => fault.message

def Fault.message : Fault → String
  | .malformed => "<yaml error>"
  | .escape code =>
    if code < 2 ^ 31 then "chr() arg not in range(0x110000)"
    else "Python int too large to convert to C int"
  | .scalar fault => fault.message

end ChartManifests.Yaml
