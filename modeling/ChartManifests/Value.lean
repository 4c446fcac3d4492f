import ChartManifests.Calendar
import ChartManifests.Number.Double
import ChartManifests.Text.CodePoint
import ChartManifests.Text.Utf8
/-!
Document values: what a configuration or a rendered object consists of.

A document may refer back to a collection from inside of it. A collection of such a document carries
an anchor, and the inner place holds `again`, which says how many collections up it is found.

A double that is no number is equal to nothing, but a key finds its own entry again. So such a value
carries an identity; without one it is never met a second time.
-/

namespace ChartManifests

inductive Bracket
  | square
  | curly
deriving DecidableEq, Repr

inductive Value
  | null
  | boolean (truth : Bool)
  | integer (number : Int)
  | double (number : Double)
  | undefined (identity : Option Nat)
  | text (content : Text)
  | bytes (content : Text.Bytes)
  | date (day : Date)
  | moment (time : Moment)
  | list (anchor : Option Nat) (items : List Value)
  | tuple (items : List Value)
  | set (items : List Value)
  | map (anchor : Option Nat) (entries : List (Value × Value))
  | again (bracket : Bracket) (up : Nat)
deriving Inhabited, Repr

namespace Value

def kindName : Value → String
  | null => "NoneType"
  | boolean _ => "bool"
  | integer _ => "int"
  | double _ | undefined _ => "float"
  | text _ => "str"
  | bytes _ => "bytes"
  | date _ => "datetime.date"
  | moment _ => "datetime.datetime"
  | list _ _ => "list"
  | tuple _ => "tuple"
  | set _ => "set"
  | map _ _ => "dict"
  | again .square _ => "list"
  | again .curly _ => "dict"

def text? : Value → Option Text
  | text content => some content
  | _ => none

def whole? : Value → Option Int
  | boolean truth => some (if truth then 1 else 0)
  | integer number => some number
  | double number => number.toInt?
  | _ => none

end Value

end ChartManifests
