import ChartManifests.Host.Entry
/-!
Changes of permissions as text: an octal number, or clauses such as `u+x,go-w`. A change is read
once and can be made to the permissions of many files.
-/

namespace ChartManifests.Permission

def all : Nat := 0o7777

def identity : Nat := 0o6000

inductive Verb
  | give
  | take
  | replace
deriving DecidableEq, Repr

/-- Where the bits of a clause come from: from itself, from the bits that a kind of users has, or
from itself and, if anyone may run the file, the bits for running it. -/
inductive Source
  | own
  | copied
  | running
deriving DecidableEq, Repr

/-- A part of a change: whose bits it concerns, none if nobody is named; the bits it spells; and the
bits that it mentions. -/
structure Clause where
  verb : Verb
  affected : Nat
  value : Nat
  mentioned : Nat
  source : Source
deriving DecidableEq, Repr

def bitsOfUsers : Char → Nat
  | 'u' => 0o4700
  | 'g' => 0o2070
  | 'o' => 0o1007
  | 'a' => all
  | _ => 0

def bitsOfLetter : Char → Nat
  | 'r' => 0o444
  | 'w' => 0o222
  | 'x' => 0o111
  | 's' => identity
  | 't' => 0o1000
  | _ => 0

def verb? : Char → Option Verb
  | '+' => some .give
  | '-' => some .take
  | '=' => some .replace
  | _ => none

def isOctalDigit (digit : Char) : Bool := '0' ≤ digit && digit ≤ '7'

def octal? (digits : List Char) : Option Nat :=
  let value := digits.foldl (fun value digit => value * 8 + (digit.toNat - '0'.toNat)) 0
  if value ≤ all then some value else none

def clauseValue (affected : Nat) (characters : List Char) :
    Option (Nat × Nat × Source × List Char) :=
  let digits := characters.takeWhile isOctalDigit
  let rest := characters.drop digits.length
  match characters with
  | 'u' :: behind => some (0o700, 0, .copied, behind)
  | 'g' :: behind => some (0o070, 0, .copied, behind)
  | 'o' :: behind => some (0o007, 0, .copied, behind)
  | _ =>
    if digits ≠ [] then
      if affected ≠ 0 || rest.head?.any (· ≠ ',') then none
      else (octal? digits).map fun value => (value, all, .own, rest)
    else
      let letters := characters.takeWhile fun letter => "rwxXst".toList.contains letter
      let value := letters.foldl (fun value letter => value ||| bitsOfLetter letter) 0
      let source : Source := if letters.contains 'X' then .running else .own
      some (value, 0, source, characters.drop letters.length)

def clausesFrom : Nat → Nat → List Char → Option (List Clause)
  | 0, _, _ => none
  | _ + 1, _, [] => none
  | bound + 1, affected, sign :: rest => do
    let verb ← verb? sign
    let (value, named, source, behind) ← clauseValue affected rest
    let mentioned := if named ≠ 0 then named
      else if affected ≠ 0 then affected &&& value else value
    let clause : Clause := ⟨verb, if named ≠ 0 then all else affected, value, mentioned, source⟩
    match behind with
    | [] => some [clause]
    | ',' :: more =>
      let users := more.takeWhile fun letter => bitsOfUsers letter ≠ 0
      let next := users.foldl (fun bits letter => bits ||| bitsOfUsers letter) 0
      (clausesFrom bound next (more.drop users.length)).map (clause :: ·)
    | _ => (clausesFrom bound affected behind).map (clause :: ·)

def plainDigits : Nat := 4

def change? (text : String) : Option (List Clause) :=
  let characters := text.toList
  if characters.head?.any isOctalDigit then
    if characters.all isOctalDigit then
      (octal? characters).map fun value =>
        let mentioned := if characters.length ≤ plainDigits then
            (value &&& 0o7000) ||| ofDirectory
          else all
        [⟨.replace, all, value, mentioned, .own⟩]
    else none
  else
    let users := characters.takeWhile fun letter => bitsOfUsers letter ≠ 0
    let affected := users.foldl (fun bits letter => bits ||| bitsOfUsers letter) 0
    clausesFrom (characters.length + 1) affected (characters.drop users.length)

def spread (bits : Nat) : Nat :=
  [0o444, 0o222, 0o111].foldl (fun value triple =>
    if bits &&& triple = 0 then value else value ||| triple) 0

/-- What a clause makes of permissions. Of a directory it only changes the bits for the identity
that it mentions. -/
def Clause.apply (clause : Clause) (mask : Nat) (isDirectory : Bool) (mode : Nat) : Nat :=
  let omitted := if isDirectory then without clause.mentioned identity else 0
  let spelled := match clause.source with
    | .own => clause.value
    | .copied => spread (clause.value &&& mode)
    | .running =>
      if isDirectory || allowsRunning mode then clause.value ||| 0o111 else clause.value
  let reach := if clause.affected ≠ 0 then clause.affected else without mask all
  let value := without omitted (spelled &&& reach)
  match clause.verb with
  | .give => mode ||| value
  | .take => without value mode
  | .replace =>
    let kept := (if clause.affected ≠ 0 then without clause.affected all else 0) ||| omitted
    (mode &&& kept) ||| value

def applied (change : List Clause) (mask : Nat) (isDirectory : Bool) (mode : Nat) : Nat :=
  change.foldl (fun mode clause => clause.apply mask isDirectory mode) mode

def letters (mode : Nat) : String :=
  let has (bit : Nat) : Bool := mode &&& bit ≠ 0
  let third (runs special : Nat) (both alone : Char) : Char :=
    if has special then (if has runs then both else alone) else if has runs then 'x' else '-'
  let pair (place : Nat) : List Char :=
    [if has (4 * place) then 'r' else '-', if has (2 * place) then 'w' else '-']
  String.ofList (pair 64 ++ [third 64 0o4000 's' 'S'] ++ pair 8 ++ [third 8 0o2000 's' 'S']
    ++ pair 1 ++ [third 1 0o1000 't' 'T'])

def digits (width mode : Nat) : String :=
  let shown := Nat.toDigits 8 mode
  String.ofList (List.replicate (width - shown.length) '0' ++ shown)

end ChartManifests.Permission
