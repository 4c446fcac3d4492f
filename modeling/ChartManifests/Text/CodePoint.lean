/-!
Texts as code points. Besides characters a text can hold surrogates, which are code points but no
characters: an escape in a document can name one of them, and it then stands for itself.
-/

namespace ChartManifests

structure CodePoint where
  number : Nat
  inRange : number < 0x110000
deriving DecidableEq, Repr

namespace CodePoint

def ofChar (character : Char) : CodePoint :=
  ⟨character.toNat, by
    have valid : character.toNat.isValidChar := character.valid
    simp only [Nat.isValidChar] at valid
    omega⟩

instance : Coe Char CodePoint := ⟨ofChar⟩

def isSurrogate (point : CodePoint) : Bool := 0xD800 ≤ point.number ∧ point.number ≤ 0xDFFF

def char? (point : CodePoint) : Option Char :=
  if point.isSurrogate then none else some (Char.ofNat point.number)

def ofNumber? (number : Nat) : Option CodePoint :=
  if inRange : number < 0x110000 then some ⟨number, inRange⟩ else none

theorem ofChar_injective {left right : Char} (same : ofChar left = ofChar right) :
    left = right := by
  have numbers : left.toNat = right.toNat := congrArg CodePoint.number same
  exact Char.ext (UInt32.toNat_inj.mp numbers)

theorem char?_ofChar (character : Char) : (ofChar character).char? = some character := by
  have valid : character.toNat.isValidChar := character.valid
  simp only [Nat.isValidChar] at valid
  have proper : (ofChar character).isSurrogate = false :=
    decide_eq_false (by simp only [ofChar]; omega)
  rw [char?, proper]
  simp [ofChar]

end CodePoint

abbrev Text := List CodePoint

namespace Text

def ofChars (characters : List Char) : Text := characters.map CodePoint.ofChar

def ofString (string : String) : Text := ofChars string.toList

instance : Coe String Text := ⟨ofString⟩

def chars? (text : Text) : Option (List Char) := text.mapM CodePoint.char?

theorem ofChars_injective {left right : List Char} (same : ofChars left = ofChars right) :
    left = right :=
  List.map_inj_right (fun _ _ => CodePoint.ofChar_injective) |>.mp same

theorem ofString_injective {left right : String} (same : ofString left = ofString right) :
    left = right := by
  have characters := ofChars_injective same
  rw [← String.ofList_toList (s := left), characters, String.ofList_toList]

def isUpTo : Text → Text → Bool
  | [], _ => true
  | _ :: _, [] => false
  | first :: rest, other :: others =>
    first.number < other.number || (first = other && isUpTo rest others)

def joined (separator : Text) : List Text → Text
  | [] => []
  | [text] => text
  | text :: rest => text ++ separator ++ joined separator rest

end Text

end ChartManifests
