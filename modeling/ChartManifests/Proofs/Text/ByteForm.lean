import ChartManifests.Proofs.Path
import ChartManifests.Text.ByteForm
import Mathlib.Data.List.Flatten
/-!
The bytes of a text, code point by code point. A character of ASCII is one byte, which no other code
point has a part in; so a text can be cut at such a character before or after it becomes bytes.
-/

namespace ChartManifests.Text

def octetsOf? (point : CodePoint) : Option (List Char) :=
  match point.char?, rawByte? point with
  | some character, _ => some (charactersOf (Utf8.encode (String.singleton character)))
  | none, some byte => some (charactersOf [byte])
  | none, none => none

def HasBytes (text : Text) : Prop := ∀ point ∈ text, (octetsOf? point).isSome = true

def spelling (text : Text) : List Char := text.flatMap fun point => (octetsOf? point).getD []

def spelled (text : Text) : String := String.ofList (spelling text)

theorem HasBytes.sublist {text part : Text} (has : HasBytes text) (within : part.Sublist text) :
    HasBytes part :=
  fun point present => has point (within.subset present)

theorem spelling_sublist {text part : Text} (within : part.Sublist text) :
    (spelling part).Sublist (spelling text) :=
  within.flatMap _

theorem HasBytes.cons {point : CodePoint} {rest : Text} (has : HasBytes (point :: rest)) :
    (∃ octets, octetsOf? point = some octets) ∧ HasBytes rest :=
  ⟨Option.isSome_iff_exists.mp (has point List.mem_cons_self),
    fun other present => has other (List.mem_cons_of_mem _ present)⟩

theorem spelling_cons {point : CodePoint} {octets : List Char}
    (known : octetsOf? point = some octets) (rest : Text) :
    spelling (point :: rest) = octets ++ spelling rest := by
  simp only [spelling, List.flatMap_cons, known, Option.getD_some]

theorem bytesFrom_spelling {text : Text} : ∀ {position : Nat} {bytes : Bytes},
    bytesFrom position text = .ok bytes → HasBytes text ∧ charactersOf bytes = spelling text := by
  induction text with
  | nil =>
    rintro position _ ⟨⟩
    exact ⟨nofun, rfl⟩
  | cons point rest ih =>
    intro position bytes encoded
    have octets : ∀ own : Bytes, octetsOf? point = some (charactersOf own) →
        (bytesFrom (position + 1) rest).map (own ++ ·) = .ok bytes →
        HasBytes (point :: rest) ∧ charactersOf bytes = spelling (point :: rest) := by
      intro own known mapped
      cases others : bytesFrom (position + 1) rest with
      | error fault => simp [others, Except.map] at mapped
      | ok behind =>
        simp only [others, Except.map, Except.ok.injEq] at mapped
        obtain ⟨has, spells⟩ := ih others
        refine ⟨?_, ?_⟩
        · exact List.forall_mem_cons.mpr ⟨by simp [known], has⟩
        · rw [spelling_cons known, ← mapped, ← spells]
          exact List.map_append
    unfold bytesFrom at encoded
    split at encoded
    next character plain => exact octets _ (by simp only [octetsOf?, plain]) encoded
    next byte surrogate raw => exact octets [byte] (by simp only [octetsOf?, surrogate, raw]) encoded
    next => cases encoded

theorem external_spelled {text : Text} {name : String} (formed : external text = .ok name) :
    HasBytes text ∧ name = spelled text := by
  simp only [external, byteForm] at formed
  cases encoded : bytesFrom 0 text with
  | error fault => simp [encoded, Except.map] at formed
  | ok bytes =>
    simp only [encoded, Except.map, Except.ok.injEq] at formed
    obtain ⟨has, spells⟩ := bytesFrom_spelling encoded
    exact ⟨has, by rw [← formed, ofOctets, spells, spelled]⟩

theorem exists_bytesFrom {text : Text} (has : HasBytes text) :
    ∀ position, ∃ bytes, bytesFrom position text = .ok bytes := by
  induction text with
  | nil => exact fun _ => ⟨[], rfl⟩
  | cons point rest ih =>
    intro position
    obtain ⟨⟨octets, known⟩, others⟩ := has.cons
    obtain ⟨behind, encoded⟩ := ih others (position + 1)
    unfold bytesFrom
    split
    next => exact ⟨_, by rw [encoded]; rfl⟩
    next => exact ⟨_, by rw [encoded]; rfl⟩
    next surrogate unraw => simp [octetsOf?, surrogate, unraw] at known

theorem external_iff {text : Text} {name : String} :
    external text = .ok name ↔ HasBytes text ∧ name = spelled text := by
  refine ⟨external_spelled, ?_⟩
  rintro ⟨has, rfl⟩
  obtain ⟨bytes, encoded⟩ := exists_bytesFrom has 0
  have formed : external text = .ok (ofOctets bytes) := by
    rw [external, byteForm, encoded]
    rfl
  rw [formed, (external_spelled formed).2]

theorem hasBytes_ofString (string : String) : HasBytes (ofString string) := by
  intro point present
  obtain ⟨character, -, rfl⟩ := List.mem_map.mp present
  rw [octetsOf?, CodePoint.char?_ofChar]
  rfl

section Octets

theorem toList_loop (bytes : ByteArray) (start : Nat) (before : List UInt8) :
    ByteArray.toList.loop bytes start before =
      before.reverse ++ bytes.data.toList.drop start := by
  fun_induction ByteArray.toList.loop bytes start before with
  | case1 start before within ih =>
    have bound : start < bytes.data.toList.length := within
    have byte : bytes.get! start = bytes.data.toList[start] := getElem!_pos bytes.data start within
    rw [ih, List.drop_eq_getElem_cons bound, byte, List.reverse_cons, List.append_assoc,
      List.singleton_append]
  | case2 start before beyond =>
    have bound : bytes.data.toList.length ≤ start := Nat.le_of_not_lt beyond
    rw [List.drop_eq_nil_of_le bound, List.append_nil]

theorem encode_characters (text : String) :
    Utf8.encode text = text.toList.flatMap String.utf8EncodeChar := by
  have whole : (String.ofList text.toList).toUTF8.toList =
      text.toList.flatMap String.utf8EncodeChar := by
    rw [String.toUTF8, String.toByteArray_ofList, List.utf8Encode, ByteArray.toList, toList_loop]
    simp
  rwa [String.ofList_toList] at whole

theorem encode_singleton (character : Char) :
    Utf8.encode (String.singleton character) = String.utf8EncodeChar character := by
  rw [encode_characters, String.toList_singleton, List.flatMap_singleton]

theorem toNat_ofNat {number : Nat} (valid : number.isValidChar) :
    (Char.ofNat number).toNat = number := by
  rw [Char.ofNat, dif_pos valid]
  rfl

theorem toNat_ofNat_byte (byte : UInt8) : (Char.ofNat byte.toNat).toNat = byte.toNat :=
  toNat_ofNat (Or.inl (Nat.lt_trans byte.toNat_lt (by decide)))

theorem utf8EncodeChar_low {character : Char} (low : character.toNat < 128) :
    String.utf8EncodeChar character = [UInt8.ofNat character.toNat] := by
  have bound : character.val.toNat ≤ 127 := Nat.le_of_lt_succ low
  simp only [String.utf8EncodeChar, if_pos bound]
  rfl

theorem utf8EncodeChar_high {character : Char} (high : 128 ≤ character.toNat) :
    String.utf8EncodeChar character ≠ [] ∧
      ∀ byte ∈ String.utf8EncodeChar character, 128 ≤ byte.toNat := by
  have beyond : ¬ character.val.toNat ≤ 127 := Nat.not_le.mpr high
  unfold String.utf8EncodeChar
  simp only [if_neg beyond]
  -- Each byte of a longer form has its highest bit set, whatever the length is.
  split
  next =>
    simp only [ne_eq, List.cons_ne_nil, not_false_eq_true, List.forall_mem_cons,
      UInt8.toNat_ofNat', List.not_mem_nil, false_implies, implies_true, and_true, true_and]
    omega
  next =>
    split <;>
    · simp only [ne_eq, List.cons_ne_nil, not_false_eq_true, List.forall_mem_cons,
        UInt8.toNat_ofNat', List.not_mem_nil, false_implies, implies_true, and_true, true_and]
      omega

theorem charactersOf_high {bytes : Bytes} (high : ∀ byte ∈ bytes, 128 ≤ byte.toNat) :
    ∀ octet ∈ charactersOf bytes, 128 ≤ octet.toNat := by
  intro octet present
  obtain ⟨byte, among, rfl⟩ := List.mem_map.mp present
  rw [toNat_ofNat_byte]
  exact high byte among

theorem octetsOf?_cases {point : CodePoint} {octets : List Char}
    (known : octetsOf? point = some octets) :
    (point.number < 128 ∧ octets = [Char.ofNat point.number]) ∨
      (128 ≤ point.number ∧ octets ≠ [] ∧ ∀ octet ∈ octets, 128 ≤ octet.toNat) := by
  unfold octetsOf? at known
  split at known
  next character plain =>
    cases known
    unfold CodePoint.char? at plain
    split at plain
    next => cases plain
    next proper =>
      cases plain
      have range := point.inRange
      have valid : point.number.isValidChar := by
        simp only [CodePoint.isSurrogate, Bool.not_eq_true, decide_eq_false_iff_not] at proper
        simp only [Nat.isValidChar]
        omega
      have number := toNat_ofNat valid
      rw [encode_singleton]
      by_cases low : point.number < 128
      · left
        refine ⟨low, ?_⟩
        rw [utf8EncodeChar_low (by rwa [number]), number, charactersOf, List.map_singleton,
          UInt8.toNat_ofNat', Nat.mod_eq_of_lt (by omega)]
      · right
        have beyond : 128 ≤ (Char.ofNat point.number).toNat := by omega
        obtain ⟨some, high⟩ := utf8EncodeChar_high beyond
        exact ⟨Nat.le_of_not_lt low, mt List.map_eq_nil_iff.mp some, charactersOf_high high⟩
  next byte surrogate raw =>
    cases known
    unfold rawByte? at raw
    split at raw
    next range =>
      have own : byte.toNat = point.number - 0xDC00 := by
        rw [← Option.some.inj raw, UInt8.toNat_ofNat', Nat.mod_eq_of_lt (by omega)]
      right
      refine ⟨by omega, by simp [charactersOf], charactersOf_high ?_⟩
      intro other only
      rw [List.mem_singleton.mp only, own]
      omega
    next => cases raw
  next => cases known

end Octets

section Cut

variable {text : Text}

theorem eq_ofChar {point : CodePoint} {character : Char} (same : point.number = character.toNat) :
    point = CodePoint.ofChar character := by
  cases point
  simp only [CodePoint.ofChar, CodePoint.mk.injEq]
  exact same

theorem splitAt_spelling {separator : Char} (low : separator.toNat < 128) (has : HasBytes text) :
    splitAt separator (spelling text) =
      (splitAt (CodePoint.ofChar separator) text).map spelling := by
  induction text with
  | nil => rfl
  | cons point rest ih =>
    obtain ⟨⟨octets, known⟩, others⟩ := has.cons
    rw [spelling_cons known]
    by_cases same : point = CodePoint.ofChar separator
    · rcases octetsOf?_cases known with ⟨-, rfl⟩ | ⟨high, -, -⟩
      · have own : Char.ofNat point.number = separator := by
          rw [same]
          exact Char.ofNat_toNat separator
        rw [own, same, splitAt_separator, List.singleton_append, splitAt_separator, ih others]
        rfl
      · rw [same] at high
        exact absurd low (Nat.not_lt.mpr high)
    · have whole : separator ∉ octets := by
        intro inside
        rcases octetsOf?_cases known with ⟨small, rfl⟩ | ⟨-, -, high⟩
        · have own := List.mem_singleton.mp inside
          apply same
          apply eq_ofChar
          rw [own, toNat_ofNat (Or.inl (by omega))]
        · exact absurd low (Nat.not_lt.mpr (high separator inside))
      have apart : CodePoint.ofChar separator ∉ [point] := by simpa using Ne.symm same
      obtain ⟨part, parts, split, joined⟩ := splitAt_append whole (spelling rest)
      obtain ⟨own, more, cut, front⟩ := splitAt_append apart rest
      have behind := ih others
      rw [split, cut, List.map_cons, List.cons.injEq] at behind
      rw [List.singleton_append] at front
      rw [joined, front, List.map_cons, List.singleton_append, spelling_cons known, behind.1,
        behind.2]

theorem head?_spelling {character : Char} (low : character.toNat < 128) (has : HasBytes text) :
    (spelling text).head? = some character ↔ text.head? = some (CodePoint.ofChar character) := by
  cases text with
  | nil => simp [spelling]
  | cons point rest =>
    obtain ⟨⟨octets, known⟩, -⟩ := has.cons
    rw [spelling_cons known, List.head?_cons, Option.some_inj]
    rcases octetsOf?_cases known with ⟨small, rfl⟩ | ⟨high, some, above⟩
    · rw [List.singleton_append, List.head?_cons, Option.some_inj]
      constructor
      · rintro rfl
        apply eq_ofChar
        rw [toNat_ofNat (Or.inl (by omega))]
      · rintro rfl
        exact Char.ofNat_toNat character
    · obtain ⟨first, more, rfl⟩ := List.exists_cons_of_ne_nil some
      have beyond := above first List.mem_cons_self
      rw [List.cons_append, List.head?_cons, Option.some_inj]
      constructor
      · rintro rfl
        omega
      · rintro rfl
        exact absurd low (Nat.not_lt.mpr high)

theorem low_of_isPlain {characters : List Char} (plain : isPlain characters = true) :
    ∀ character ∈ characters, character.toNat < 128 :=
  fun character present => of_decide_eq_true (List.all_eq_true.mp plain character present)

theorem eq_of_spelling {characters : List Char}
    (low : ∀ character ∈ characters, character.toNat < 128) (has : HasBytes text)
    (spells : spelling text = characters) : text = ofChars characters := by
  induction text generalizing characters with
  | nil =>
    cases spells
    rfl
  | cons point rest ih =>
    obtain ⟨⟨octets, known⟩, others⟩ := has.cons
    rw [spelling_cons known] at spells
    rcases octetsOf?_cases known with ⟨small, rfl⟩ | ⟨-, some, high⟩
    · subst spells
      rw [List.singleton_append, ofChars, List.map_cons]
      congr 1
      · apply eq_ofChar
        rw [toNat_ofNat (Or.inl (by omega))]
      · exact ih (fun character later => low character (List.mem_cons_of_mem _ later)) others rfl
    · obtain ⟨octet, more, rfl⟩ := List.exists_cons_of_ne_nil some
      have first := high octet List.mem_cons_self
      have bound := low octet (by rw [← spells]; exact List.mem_cons_self)
      omega

theorem octetsOf?_ofChar {character : Char} (low : character.toNat < 128) :
    octetsOf? (CodePoint.ofChar character) = some [character] := by
  have known : octetsOf? (CodePoint.ofChar character) =
      some (charactersOf (Utf8.encode (String.singleton character))) := by
    rw [octetsOf?, CodePoint.char?_ofChar]
  rw [known, encode_singleton, utf8EncodeChar_low low, charactersOf, List.map_singleton,
    UInt8.toNat_ofNat', Nat.mod_eq_of_lt (by omega), Char.ofNat_toNat]

theorem spelling_ofChars {characters : List Char}
    (low : ∀ character ∈ characters, character.toNat < 128) :
    spelling (ofChars characters) = characters := by
  induction characters with
  | nil => rfl
  | cons character rest ih =>
    rw [List.forall_mem_cons] at low
    rw [ofChars, List.map_cons, spelling_cons (octetsOf?_ofChar low.1), List.singleton_append]
    exact congrArg _ (ih low.2)

theorem spelled_ofString {name : String} (plain : isPlain name.toList = true) :
    spelled (ofString name) = name := by
  rw [spelled, ofString, spelling_ofChars (low_of_isPlain plain), String.ofList_toList]

theorem spelled_eq_iff {name : String} (plain : isPlain name.toList = true)
    (has : HasBytes text) : spelled text = name ↔ text = ofString name := by
  constructor
  · intro same
    have spells : spelling text = name.toList := by rw [← same, spelled, String.toList_ofList]
    exact eq_of_spelling (low_of_isPlain plain) has spells
  · rintro rfl
    exact spelled_ofString plain

end Cut

end ChartManifests.Text
