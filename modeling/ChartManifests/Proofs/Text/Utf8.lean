import ChartManifests.Proofs.Text.ByteForm
/-!
What is read from bytes. A first byte tells how many more belong to its character and in which range
the next one lies; bytes that cannot go on in this way are read as one malformed part. So bytes that
are the UTF-8 form of a text are read as that text, and all others are read as something with a
replacement character in it.
-/

namespace ChartManifests.Text.Utf8

section First

variable {byte : UInt8}

theorem first_one (low : byte.toNat < 0x80) :
    first byte = ⟨[some (Char.ofNat byte.toNat)], none⟩ := by
  unfold first
  rw [if_pos (UInt8.lt_iff_toNat_lt.mpr low)]

theorem first_two (low : 0xC2 ≤ byte.toNat) (high : byte.toNat < 0xE0) :
    first byte = ⟨[], some ⟨1, 0x80, 0xBF, byte.toNat - 0xC0⟩⟩ := by
  unfold first
  simp only [UInt8.lt_iff_toNat_lt, UInt8.toNat_ofNat]
  rw [if_neg (by omega), if_neg (by omega), if_pos (by omega)]

theorem first_three (low : 0xE0 ≤ byte.toNat) (high : byte.toNat < 0xF0) :
    first byte = ⟨[], some ⟨2, if byte.toNat = 0xE0 then 0xA0 else 0x80,
      if byte.toNat = 0xED then 0x9F else 0xBF, byte.toNat - 0xE0⟩⟩ := by
  unfold first
  simp only [UInt8.lt_iff_toNat_lt, beq_iff_eq, ← UInt8.toNat_inj, UInt8.toNat_ofNat]
  rw [if_neg (by omega), if_neg (by omega), if_neg (by omega)]
  by_cases least : byte.toNat = 0xE0
  · simp [least]
  · by_cases inner : byte.toNat = 0xED
    · simp [inner]
    · simp [least, inner, high]

theorem first_four (low : 0xF0 ≤ byte.toNat) (high : byte.toNat < 0xF5) :
    first byte = ⟨[], some ⟨3, if byte.toNat = 0xF0 then 0x90 else 0x80,
      if byte.toNat = 0xF4 then 0x8F else 0xBF, byte.toNat - 0xF0⟩⟩ := by
  unfold first
  simp only [UInt8.lt_iff_toNat_lt, beq_iff_eq, ← UInt8.toNat_inj, UInt8.toNat_ofNat]
  rw [if_neg (by omega), if_neg (by omega), if_neg (by omega), if_neg (by omega),
    if_neg (by omega), if_neg (by omega)]
  by_cases least : byte.toNat = 0xF0
  · simp [least]
  · by_cases last : byte.toNat = 0xF4
    · simp [last]
    · simp [least, last, (by omega : byte.toNat < 0xF4)]

theorem first_never (single : 0x80 ≤ byte.toNat)
    (outside : byte.toNat < 0xC2 ∨ 0xF5 ≤ byte.toNat) : first byte = ⟨[none], none⟩ := by
  unfold first
  simp only [UInt8.lt_iff_toNat_lt, beq_iff_eq, ← UInt8.toNat_inj, UInt8.toNat_ofNat]
  obtain low | high := outside
  · rw [if_neg (by omega), if_pos (by omega)]
  · rw [if_neg (by omega), if_neg (by omega), if_neg (by omega), if_neg (by omega),
      if_neg (by omega), if_neg (by omega), if_neg (by omega), if_neg (by omega),
      if_neg (by omega)]

end First

def extended (bits : Nat) (byte : UInt8) : Nat := bits * 64 + byte.toNat % 64

def IsTail (byte : UInt8) : Prop := 0x80 ≤ byte.toNat ∧ byte.toNat ≤ 0xBF

theorem isTail_iff (byte : UInt8) : (0x80 ≤ byte ∧ byte ≤ 0xBF) ↔ IsTail byte := by
  simp only [UInt8.le_iff_toNat_le, UInt8.toNat_ofNat, IsTail]

/-- Bytes with which a begun character can go on: the next one lies in a range, and tails follow. -/
def Takes (low high : UInt8) : Bytes → Prop
  | [] => True
  | next :: tail => (low ≤ next ∧ next ≤ high) ∧ ∀ byte ∈ tail, IsTail byte

theorem takes_tails (tail : Bytes) : Takes 0x80 0xBF tail ↔ ∀ byte ∈ tail, IsTail byte := by
  cases tail with
  | nil => simp [Takes]
  | cons next tail => rw [Takes, isTail_iff, List.forall_mem_cons]

section Pending

variable {low high next : UInt8}

theorem parts_last (within : low ≤ next ∧ next ≤ high) (bits : Nat) (rest : Bytes) :
    parts (some ⟨1, low, high, bits⟩) (next :: rest) =
      some (Char.ofNat (extended bits next)) :: parts none rest := by
  simp only [parts, step, if_pos within]
  rfl

theorem parts_further (within : low ≤ next ∧ next ≤ high) (owed bits : Nat) (rest : Bytes) :
    parts (some ⟨owed + 2, low, high, bits⟩) (next :: rest) =
      parts (some ⟨owed + 1, 0x80, 0xBF, extended bits next⟩) rest := by
  simp only [parts, step, if_pos within]
  rw [if_neg (by omega)]
  rfl

theorem parts_broken (beyond : ¬ (low ≤ next ∧ next ≤ high)) (owed bits : Nat) (rest : Bytes) :
    parts (some ⟨owed, low, high, bits⟩) (next :: rest) = none :: parts none (next :: rest) := by
  simp only [parts, step, if_neg beyond, List.cons_append]

theorem parts_complete (tail : Bytes) (within : low ≤ next ∧ next ≤ high)
    (tails : ∀ byte ∈ tail, IsTail byte) (bits : Nat) (rest : Bytes) :
    parts (some ⟨tail.length + 1, low, high, bits⟩) (next :: tail ++ rest) =
      some (Char.ofNat (tail.foldl extended (extended bits next))) :: parts none rest := by
  induction tail generalizing low high next bits with
  | nil => exact parts_last within bits rest
  | cons other tail ih =>
    rw [List.forall_mem_cons] at tails
    refine (parts_further within tail.length bits _).trans ?_
    exact ih ((isTail_iff other).mpr tails.1) tails.2 (extended bits next)

theorem parts_cut (owed bits : Nat) (bytes : Bytes) :
    ∃ tail rest, bytes = tail ++ rest ∧ Takes low high tail ∧
      (tail.length = owed + 1 ∨ tail.length ≤ owed ∧
        (∀ next more, rest = next :: more → ¬ Takes low high (tail ++ [next])) ∧
        parts (some ⟨owed + 1, low, high, bits⟩) bytes = none :: parts none rest) := by
  induction owed generalizing low high bits bytes with
  | zero =>
    cases bytes with
    | nil => exact ⟨[], [], rfl, trivial, Or.inr ⟨Nat.le_refl _, nofun, rfl⟩⟩
    | cons next rest =>
      by_cases within : low ≤ next ∧ next ≤ high
      · exact ⟨[next], rest, rfl, ⟨within, nofun⟩, Or.inl rfl⟩
      · refine ⟨[], next :: rest, rfl, trivial, Or.inr ⟨Nat.le_refl _, ?_, ?_⟩⟩
        · rintro _ _ ⟨⟩ taken
          exact within taken.1
        · exact parts_broken within _ bits rest
  | succ owed ih =>
    cases bytes with
    | nil => exact ⟨[], [], rfl, trivial, Or.inr ⟨Nat.zero_le _, nofun, rfl⟩⟩
    | cons next rest =>
      by_cases within : low ≤ next ∧ next ≤ high
      · obtain ⟨tail, behind, rfl, tails, ended⟩ := @ih 0x80 0xBF (extended bits next) rest
        rw [takes_tails] at tails
        refine ⟨next :: tail, behind, rfl, ⟨within, tails⟩, ?_⟩
        rw [parts_further within]
        refine ended.imp (congrArg (· + 1)) ?_
        rintro ⟨short, stuck, broken⟩
        refine ⟨Nat.succ_le_succ short, fun other more same taken => ?_, broken⟩
        exact stuck other more same ((takes_tails _).mpr taken.2)
      · refine ⟨[], next :: rest, rfl, trivial, Or.inr ⟨Nat.zero_le _, ?_, ?_⟩⟩
        · rintro _ _ ⟨⟩ taken
          exact within taken.1
        · exact parts_broken within _ bits rest

end Pending

theorem parts_first (byte : UInt8) (bytes : Bytes) :
    parts none (byte :: bytes) = (first byte).emitted ++ parts (first byte).pending bytes := rfl

/-- The forms of a character, with its number. The second byte is bounded where a shorter form, a
surrogate, or something above the last character would come out. -/
inductive Spells : Bytes → Nat → Prop
  | one {byte : UInt8} {number : Nat} : byte.toNat < 0x80 → number = byte.toNat →
      Spells [byte] number
  | two {byte next : UInt8} {number : Nat} : 0xC2 ≤ byte.toNat → byte.toNat < 0xE0 →
      IsTail next → number = extended (byte.toNat - 0xC0) next → Spells [byte, next] number
  | three {byte next last : UInt8} {number : Nat} : 0xE0 ≤ byte.toNat → byte.toNat < 0xF0 →
      (byte.toNat = 0xE0 → 0xA0 ≤ next.toNat) → (byte.toNat = 0xED → next.toNat ≤ 0x9F) →
      IsTail next → IsTail last →
      number = extended (extended (byte.toNat - 0xE0) next) last →
      Spells [byte, next, last] number
  | four {byte next third last : UInt8} {number : Nat} : 0xF0 ≤ byte.toNat → byte.toNat < 0xF5 →
      (byte.toNat = 0xF0 → 0x90 ≤ next.toNat) → (byte.toNat = 0xF4 → next.toNat ≤ 0x8F) →
      IsTail next → IsTail third → IsTail last →
      number = extended (extended (extended (byte.toNat - 0xF0) next) third) last →
      Spells [byte, next, third, last] number

theorem within_iff {low high : Nat} {byte next least most : UInt8} (lower : 0x80 ≤ least.toNat)
    (upper : most.toNat ≤ 0xBF) :
    ((if byte.toNat = low then least else 0x80) ≤ next ∧
      next ≤ if byte.toNat = high then most else 0xBF) ↔
    (byte.toNat = low → least.toNat ≤ next.toNat) ∧
      (byte.toNat = high → next.toNat ≤ most.toNat) ∧ IsTail next := by
  have smallest : (0x80 : UInt8).toNat = 0x80 := rfl
  have greatest : (0xBF : UInt8).toNat = 0xBF := rfl
  simp only [UInt8.le_iff_toNat_le, IsTail]
  split <;> split <;> omega

namespace Spells

variable {own other : Bytes} {number : Nat}

theorem read (spells : Spells own number) (rest : Bytes) :
    parts none (own ++ rest) = some (Char.ofNat number) :: parts none rest := by
  cases spells with
  | one low code =>
    rw [List.singleton_append, parts_first, first_one low, code]
    rfl
  | @two byte next _ low high tailed code =>
    rw [List.cons_append, parts_first, first_two low high, code]
    exact parts_complete [] ((isTail_iff next).mpr tailed) nofun _ rest
  | @three byte next last _ low high least inner tailed tails code =>
    rw [List.cons_append, parts_first, first_three low high, code]
    refine parts_complete [last] ?_ (List.forall_mem_singleton.mpr tails) _ rest
    exact (within_iff (by decide) (by decide)).mpr ⟨least, inner, tailed⟩
  | @four byte next third last _ low high least most tailed middle tails code =>
    rw [List.cons_append, parts_first, first_four low high, code]
    refine parts_complete [third, last] ?_ ?_ _ rest
    · exact (within_iff (by decide) (by decide)).mpr ⟨least, most, tailed⟩
    · exact List.forall_mem_cons.mpr ⟨middle, List.forall_mem_singleton.mpr tails⟩

theorem of_character (character : Char) :
    Spells (String.utf8EncodeChar character) character.toNat := by
  -- The bytes are written by the same four lengths, so the bounds are all arithmetic.
  have valid : character.val.toNat.isValidChar := character.valid
  simp only [Nat.isValidChar] at valid
  change Spells _ character.val.toNat
  simp only [String.utf8EncodeChar]
  generalize character.val.toNat = number at *
  split
  next low =>
    refine .one ?_ ?_ <;>
    · simp only [UInt8.toNat_ofNat']
      omega
  next beyond =>
    split
    next short =>
      refine .two ?_ ?_ ?_ ?_ <;>
      · simp only [UInt8.toNat_ofNat', IsTail, extended]
        omega
    next long =>
      split
      next middle =>
        refine .three ?_ ?_ ?_ ?_ ?_ ?_ ?_ <;>
        · simp only [UInt8.toNat_ofNat', IsTail, extended]
          omega
      next high =>
        refine .four ?_ ?_ ?_ ?_ ?_ ?_ ?_ ?_ <;>
        · simp only [UInt8.toNat_ofNat', IsTail, extended]
          omega

theorem valid (spells : Spells own number) : number.isValidChar := by
  cases spells with
  | one low code => exact Or.inl (by omega)
  | two low high tailed code =>
    simp only [IsTail, extended] at *
    exact Or.inl (by omega)
  | three low high least inner tailed tails code =>
    simp only [IsTail, extended, Nat.isValidChar] at *
    omega
  | four low high least most tailed middle tails code =>
    simp only [IsTail, extended, Nat.isValidChar] at *
    omega

theorem encoded (spells : Spells own number) :
    own = String.utf8EncodeChar (Char.ofNat number) := by
  have code : (Char.ofNat number).val.toNat = number := toNat_ofNat spells.valid
  simp only [String.utf8EncodeChar, code]
  cases spells with
  | one low code =>
    rw [if_pos (by omega)]
    simp only [List.cons.injEq, ← UInt8.toNat_inj, UInt8.toNat_ofNat', and_true]
    omega
  | two low high tailed code =>
    simp only [IsTail, extended] at *
    rw [if_neg (by omega), if_pos (by omega)]
    simp only [List.cons.injEq, ← UInt8.toNat_inj, UInt8.toNat_ofNat', and_true]
    omega
  | three low high least inner tailed tails code =>
    simp only [IsTail, extended] at *
    rw [if_neg (by omega), if_neg (by omega), if_pos (by omega)]
    simp only [List.cons.injEq, ← UInt8.toNat_inj, UInt8.toNat_ofNat', and_true]
    omega
  | four low high least most tailed middle tails code =>
    simp only [IsTail, extended] at *
    rw [if_neg (by omega), if_neg (by omega), if_neg (by omega)]
    simp only [List.cons.injEq, ← UInt8.toNat_inj, UInt8.toNat_ofNat', and_true]
    omega

end Spells

def Begins (part : Bytes) : Prop := ∃ form number, Spells form number ∧ part <+: form

/-- A part of bytes that is no character: the longest one that a form begins with, or a single byte
that no form begins with. -/
structure Malformed (part rest : Bytes) : Prop where
  some : part ≠ []
  unspelled : ∀ number, ¬ Spells part number
  begun : part.length = 1 ∨ Begins part
  longest : ∀ next more, rest = next :: more → ¬ Begins (part ++ [next])

/-- The first byte of a form of several bytes: how many follow the second one, and the range that
the second one lies in. -/
structure Leads (byte : UInt8) (owed : Nat) (low high : UInt8) : Prop where
  pending : ∃ bits, first byte = ⟨[], some ⟨owed + 1, low, high, bits⟩⟩
  spells : ∀ tail, (∃ number, Spells (byte :: tail) number) ↔
    tail.length = owed + 1 ∧ Takes low high tail

theorem leads_two {byte : UInt8} (low : 0xC2 ≤ byte.toNat) (high : byte.toNat < 0xE0) :
    Leads byte 0 0x80 0xBF := by
  refine ⟨⟨_, first_two low high⟩, fun tail => ?_⟩
  constructor
  · rintro ⟨number, spells⟩
    cases spells with
    | two _ _ tailed _ => exact ⟨rfl, (isTail_iff _).mpr tailed, nofun⟩
    | _ => omega
  · rintro ⟨length, taken⟩
    obtain ⟨next, rfl⟩ := List.length_eq_one_iff.mp length
    exact ⟨_, .two low high ((isTail_iff _).mp taken.1) rfl⟩

theorem leads_three {byte : UInt8} (low : 0xE0 ≤ byte.toNat) (high : byte.toNat < 0xF0) :
    Leads byte 1 (if byte.toNat = 0xE0 then 0xA0 else 0x80)
      (if byte.toNat = 0xED then 0x9F else 0xBF) := by
  refine ⟨⟨_, first_three low high⟩, fun tail => ?_⟩
  constructor
  · rintro ⟨number, spells⟩
    cases spells with
    | three _ _ least inner tailed tails _ =>
      exact ⟨rfl, (within_iff (by decide) (by decide)).mpr ⟨least, inner, tailed⟩,
        List.forall_mem_singleton.mpr tails⟩
    | _ => omega
  · rintro ⟨length, taken⟩
    match tail, length, taken with
    | [next, last], _, ⟨within, tails⟩ =>
      obtain ⟨least, inner, tailed⟩ := (within_iff (by decide) (by decide)).mp within
      exact ⟨_, .three low high least inner tailed (tails last (by simp)) rfl⟩

theorem leads_four {byte : UInt8} (low : 0xF0 ≤ byte.toNat) (high : byte.toNat < 0xF5) :
    Leads byte 2 (if byte.toNat = 0xF0 then 0x90 else 0x80)
      (if byte.toNat = 0xF4 then 0x8F else 0xBF) := by
  refine ⟨⟨_, first_four low high⟩, fun tail => ?_⟩
  constructor
  · rintro ⟨number, spells⟩
    cases spells with
    | four _ _ least most tailed middle tails _ =>
      exact ⟨rfl, (within_iff (by decide) (by decide)).mpr ⟨least, most, tailed⟩,
        List.forall_mem_cons.mpr ⟨middle, List.forall_mem_singleton.mpr tails⟩⟩
    | _ => omega
  · rintro ⟨length, taken⟩
    match tail, length, taken with
    | [next, third, last], _, ⟨within, tails⟩ =>
      obtain ⟨least, most, tailed⟩ := (within_iff (by decide) (by decide)).mp within
      exact ⟨_, .four low high least most tailed (tails third (by simp)) (tails last (by simp))
        rfl⟩

theorem lead_cases (byte : UInt8) :
    byte.toNat < 0x80 ∨
    (first byte = ⟨[none], none⟩ ∧ ∀ tail number, ¬ Spells (byte :: tail) number) ∨
    ∃ owed low high, Leads byte owed low high := by
  by_cases single : byte.toNat < 0x80
  · exact Or.inl single
  by_cases outside : byte.toNat < 0xC2 ∨ 0xF5 ≤ byte.toNat
  · refine Or.inr (Or.inl ⟨first_never (by omega) outside, fun tail number spells => ?_⟩)
    cases spells <;> omega
  by_cases short : byte.toNat < 0xE0
  · exact Or.inr (Or.inr ⟨_, _, _, leads_two (by omega) short⟩)
  by_cases middle : byte.toNat < 0xF0
  · exact Or.inr (Or.inr ⟨_, _, _, leads_three (by omega) middle⟩)
  · exact Or.inr (Or.inr ⟨_, _, _, leads_four (by omega) (by omega)⟩)

theorem Takes.of_append {low high : UInt8} {tail more : Bytes}
    (taken : Takes low high (tail ++ more)) : Takes low high tail := by
  cases tail with
  | nil => trivial
  | cons next tail =>
    exact ⟨taken.1, fun other present => taken.2 other (List.mem_append_left _ present)⟩

theorem takes_of_begins {byte : UInt8} {owed : Nat} {low high : UInt8}
    (leads : Leads byte owed low high) {tail : Bytes} (begun : Begins (byte :: tail)) :
    Takes low high tail := by
  obtain ⟨form, number, spells, more, rfl⟩ := begun
  exact ((leads.spells _).mp ⟨number, spells⟩).2.of_append

theorem begins_of_takes {byte : UInt8} {owed : Nat} {low high : UInt8}
    (leads : Leads byte owed low high) {next : UInt8} {tail : Bytes}
    (taken : Takes low high (next :: tail)) (short : tail.length ≤ owed) :
    Begins (byte :: next :: tail) := by
  -- The least tails that are missing make up a whole form.
  let missing := List.replicate (owed - tail.length) (0x80 : UInt8)
  have whole : Takes low high (next :: tail ++ missing) := by
    refine ⟨taken.1, fun other present => ?_⟩
    obtain own | new := List.mem_append.mp present
    · exact taken.2 other own
    · rw [List.eq_of_mem_replicate new]
      exact ⟨by decide, by decide⟩
  have length : (next :: tail ++ missing).length = owed + 1 := by
    simp only [missing, List.length_append, List.length_cons, List.length_replicate]
    omega
  obtain ⟨number, spells⟩ := (leads.spells _).mpr ⟨length, whole⟩
  exact ⟨_, number, spells, missing, rfl⟩

theorem malformed_single {byte : UInt8} (never : ∀ tail number, ¬ Spells (byte :: tail) number)
    (rest : Bytes) : Malformed [byte] rest := by
  refine ⟨List.cons_ne_nil _ _, never [], Or.inl rfl, ?_⟩
  rintro next more - ⟨form, number, spells, behind, rfl⟩
  exact never _ number spells

theorem parts_front (byte : UInt8) (bytes : Bytes) :
    (∃ own number rest, byte :: bytes = own ++ rest ∧ Spells own number) ∨
    ∃ part rest, byte :: bytes = part ++ rest ∧ Malformed part rest ∧
      parts none (byte :: bytes) = none :: parts none rest := by
  obtain single | ⟨alone, never⟩ | ⟨owed, low, high, leads⟩ := lead_cases byte
  · exact Or.inl ⟨[byte], _, bytes, rfl, .one single rfl⟩
  · refine Or.inr ⟨[byte], bytes, rfl, malformed_single never bytes, ?_⟩
    rw [parts_first, alone]
    rfl
  · obtain ⟨bits, pending⟩ := leads.pending
    obtain ⟨tail, rest, rfl, taken, whole | ⟨short, stuck, broken⟩⟩ :=
      @parts_cut low high owed bits bytes
    · obtain ⟨number, spells⟩ := (leads.spells tail).mpr ⟨whole, taken⟩
      exact Or.inl ⟨byte :: tail, number, rest, rfl, spells⟩
    · refine Or.inr ⟨byte :: tail, rest, rfl, ⟨List.cons_ne_nil _ _, ?_, ?_, ?_⟩, ?_⟩
      · intro number spells
        have length := ((leads.spells tail).mp ⟨number, spells⟩).1
        omega
      · cases tail with
        | nil => exact Or.inl rfl
        | cons next tail =>
          rw [List.length_cons] at short
          exact Or.inr (begins_of_takes leads taken (by omega))
      · intro next more same begun
        exact stuck next more same (takes_of_begins leads begun)
      · rw [parts_first, pending]
        exact broken

theorem parts_encode (text : String) : parts none (encode text) = text.toList.map some := by
  rw [encode_characters]
  induction text.toList with
  | nil => rfl
  | cons character rest ih =>
    rw [List.flatMap_cons, (Spells.of_character character).read, ih, Char.ofNat_toNat]
    rfl

theorem decodeLossy_encode (text : String) : decodeLossy (encode text) = text.toList := by
  rw [decodeLossy, parts_encode, List.map_map]
  exact List.map_id _

end ChartManifests.Text.Utf8
