import ChartManifests.Rules.Datum
/-!
Texts made from values by a format with directives, each of which shows the next value.
-/

namespace ChartManifests.Rules

open Program (Directive)
open Text (Bytes)

/-- Why a format cannot be followed: there are too few values for it, or a directive is none. What
has been written before that comes first. -/
inductive FormatFault
  | missing (written : Bytes)
  | improper (written : Bytes) (number : Nat)
deriving DecidableEq, Repr

def wholeRange : Int × Int := (-(2 ^ 63), 2 ^ 63 - 1)

def shown (plain : Double → String) (directive : Directive) (value : Datum) : Option Bytes :=
  let cut (bytes : Bytes) : Bytes := match directive.precision with
    | some length => bytes.take length
    | none => bytes
  match directive.conversion with
  | 's' => some (Program.padded directive (cut (Text.octets (value.toText plain))))
  | 'c' =>
    let byte : UInt8 := match value with
      | .number code => UInt8.ofNat ((code.clamped (-(2 ^ 31)) (2 ^ 31)) % 256).toNat
      | .unset => 0
      | .text characters | .input characters =>
        ((characters.toList.head?.map fun first => UInt8.ofNat first.toNat).getD 0)
    some (Program.padded directive [byte])
  | 'd' | 'i' =>
    let whole := value.toNumber.clamped wholeRange.1 wholeRange.2
    some (Program.shownNumber { directive with conversion := 'd' } whole)
  | 'o' | 'u' | 'x' | 'X' =>
    some (Program.shownNumber directive (value.toNumber.clamped wholeRange.1 (2 ^ 64 - 1)))
  | 'e' | 'E' | 'f' | 'F' | 'g' | 'G' =>
    some (Program.shownReal directive value.toNumber.toReal)
  | _ => none

def measured (values : List Datum) : List Char → Option (Option Int × List Datum × List Char)
  | '*' :: rest =>
    match values with
    | value :: others => some (some (value.toNumber.clamped (-9999) 9999), others, rest)
    | [] => none
  | characters =>
    let digits := characters.takeWhile Char.isDigit
    some (if digits.isEmpty then none else some ((String.ofList digits).toNat?.getD 0 : Nat),
      values, characters.drop digits.length)

def formatFrom (plain : Double → String) :
    Nat → Nat → Bytes → List Datum → List Char → Except FormatFault Bytes
  | 0, _, written, _, _ | _ + 1, _, written, _, [] => .ok written
  | bound + 1, number, written, values, '%' :: '%' :: rest =>
    formatFrom plain bound number (written ++ [37]) values rest
  | bound + 1, number, written, values, '%' :: rest =>
    let flags := rest.takeWhile fun other => ['-', '+', ' ', '#', '0'].contains other
    match measured values (rest.drop flags.length) with
    | none => .error (.missing written)
    | some (width, afterWidth, more) =>
      let precise : Option (Option Nat × List Datum × List Char) := match more with
        | '.' :: behind =>
          (measured afterWidth behind).map fun found =>
            (some (found.1.getD 0).toNat, found.2.1, found.2.2)
        | _ => some (none, afterWidth, more)
      match precise with
      | none => .error (.missing written)
      | some (precision, left, last) =>
        let conversion := (last.dropWhile fun other => other = 'l' || other = 'h').headD '\x00'
        let behind := (last.dropWhile fun other => other = 'l' || other = 'h').drop 1
        let wide := width.getD 0
        let directive : Directive :=
          ⟨if wide < 0 then '-' :: flags else flags, wide.natAbs, precision, [], conversion⟩
        match left with
        | [] =>
          if (shown plain directive .unset).isNone then .error (.improper written number)
          else .error (.missing written)
        | value :: others =>
          match shown plain directive value with
          | some bytes => formatFrom plain bound (number + 1) (written ++ bytes) others behind
          | none => .error (.improper written number)
  | bound + 1, number, written, values, character :: rest =>
    formatFrom plain bound number (written ++ [UInt8.ofNat character.toNat]) values rest

def format (plain : Double → String) (pattern : String) (values : List Datum) :
    Except FormatFault Bytes :=
  let characters := pattern.toList
  formatFrom plain (characters.length + 1) 1 [] values characters

def byFormat (pattern : String) (number : Double) : String :=
  match format (fun _ => "") pattern [.number number] with
  | .ok bytes | .error (.missing bytes) | .error (.improper bytes _) => Text.ofOctets bytes

end ChartManifests.Rules
