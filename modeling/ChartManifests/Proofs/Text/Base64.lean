import ChartManifests.Text.Base64
/-!
Bytes that are spelled by characters of base64 are read back from these. Three bytes are four
characters, and each of those is read as the six bits that it stands for; at the end padding tells
how many bytes are left.
-/

namespace ChartManifests.Text.Base64

theorem sextet?_alphabet : ∀ bits < 64, sextet? (alphabet.getD bits '=') = some bits := by
  decide +kernel

theorem sextet?_padding : sextet? '=' = none := rfl

section Reading

variable (bits carried pads : Nat) (rest : List Char)

theorem sextet?_character : sextet? (character bits) = some (bits % 64) :=
  sextet?_alphabet (bits % 64) (Nat.mod_lt bits (by decide))

theorem character_ne_padding : character bits ≠ '=' := by
  intro same
  have read := sextet?_character bits
  rw [same, sextet?_padding] at read
  cases read

theorem decodeFrom_first :
    decodeFrom 0 carried pads (character bits :: rest) = decodeFrom 1 (bits % 64) 0 rest := by
  have proper := character_ne_padding bits
  simp only [decodeFrom, sextet?_character]

theorem decodeFrom_second :
    decodeFrom 1 carried pads (character bits :: rest) =
      (decodeFrom 2 (bits % 16) 0 rest).map
        (UInt8.ofNat (carried * 4 + bits % 64 / 16) :: ·) := by
  have proper := character_ne_padding bits
  simp only [decodeFrom, sextet?_character, Nat.mod_mod_of_dvd bits (by decide : 16 ∣ 64)]

theorem decodeFrom_third :
    decodeFrom 2 carried pads (character bits :: rest) =
      (decodeFrom 3 (bits % 4) 0 rest).map
        (UInt8.ofNat (carried * 16 + bits % 64 / 4) :: ·) := by
  have proper := character_ne_padding bits
  simp only [decodeFrom, sextet?_character, Nat.mod_mod_of_dvd bits (by decide : 4 ∣ 64)]

theorem decodeFrom_fourth :
    decodeFrom 3 carried pads (character bits :: rest) =
      (decodeFrom 0 0 0 rest).map (UInt8.ofNat (carried * 64 + bits % 64) :: ·) := by
  have proper := character_ne_padding bits
  simp only [decodeFrom, sextet?_character]

end Reading

theorem ofNat_eq_of_toNat {byte : UInt8} {number : Nat} (same : number = byte.toNat) :
    UInt8.ofNat number = byte := by
  rw [same, UInt8.ofNat_toNat]

theorem decode?_encode (bytes : Bytes) : decode? (encode bytes) = some bytes := by
  unfold decode?
  fun_induction encode bytes with
  | case1 => rfl
  | case2 first bits =>
    have low := first.toNat_lt
    rw [decodeFrom_first, decodeFrom_second]
    have whole : UInt8.ofNat (bits / 64 % 64 * 4 + bits % 64 / 16) = first :=
      ofNat_eq_of_toNat (by omega)
    rw [whole]
    rfl
  | case3 first second bits =>
    have low := first.toNat_lt
    have next := second.toNat_lt
    rw [decodeFrom_first, decodeFrom_second, decodeFrom_third]
    have one : UInt8.ofNat (bits / 4096 % 64 * 4 + bits / 64 % 64 / 16) = first :=
      ofNat_eq_of_toNat (by omega)
    have two : UInt8.ofNat (bits / 64 % 16 * 16 + bits % 64 / 4) = second :=
      ofNat_eq_of_toNat (by omega)
    rw [one, two]
    rfl
  | case4 first second third rest bits ih =>
    have low := first.toNat_lt
    have next := second.toNat_lt
    have last := third.toNat_lt
    rw [decodeFrom_first, decodeFrom_second, decodeFrom_third, decodeFrom_fourth, ih]
    have one : UInt8.ofNat (bits / 262144 % 64 * 4 + bits / 4096 % 64 / 16) = first :=
      ofNat_eq_of_toNat (by omega)
    have two : UInt8.ofNat (bits / 4096 % 16 * 16 + bits / 64 % 64 / 4) = second :=
      ofNat_eq_of_toNat (by omega)
    have three : UInt8.ofNat (bits / 64 % 4 * 64 + bits % 64) = third :=
      ofNat_eq_of_toNat (by omega)
    rw [one, two, three]
    rfl

end ChartManifests.Text.Base64
