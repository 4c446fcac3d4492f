import ChartManifests.Proofs.Text.Utf8
/-!
How bytes are cut into characters and malformed parts. There is one way to cut them, and they are
read in this way. A byte of ASCII never continues what stands in front of it, so bytes can be read
apart from others that begin with one.
-/

namespace ChartManifests.Text.Utf8

/-- A text is what bytes are read as: a character for every form of one, and one replacement
character for every malformed part. -/
inductive Decodes : Bytes → List Char → Prop
  | nothing : Decodes [] []
  | character {own rest : Bytes} {number : Nat} {characters : List Char} :
      Spells own number → Decodes rest characters →
      Decodes (own ++ rest) (Char.ofNat number :: characters)
  | malformed {part rest : Bytes} {characters : List Char} :
      Malformed part rest → Decodes rest characters →
      Decodes (part ++ rest) (replacementCharacter :: characters)

theorem decodes_decodeLossy : ∀ bytes : Bytes, Decodes bytes (decodeLossy bytes)
  | [] => .nothing
  | byte :: bytes => by
    obtain ⟨own, number, rest, cut, spells⟩ | ⟨part, rest, cut, malformed, broken⟩ :=
      parts_front byte bytes
    · have shorter : rest.length < (byte :: bytes).length := by
        rw [cut, List.length_append]
        cases spells <;> simp
      rw [cut, decodeLossy, spells.read]
      exact .character spells (decodes_decodeLossy rest)
    · have shorter : rest.length < (byte :: bytes).length := by
        have some := List.length_pos_iff.mpr malformed.some
        rw [cut, List.length_append]
        omega
      rw [decodeLossy, broken, cut]
      exact .malformed malformed (decodes_decodeLossy rest)
termination_by bytes => bytes.length
decreasing_by
  · exact shorter
  · exact shorter

theorem Begins.of_append {part more : Bytes} (begun : Begins (part ++ more)) : Begins part := by
  obtain ⟨form, number, spells, within⟩ := begun
  exact ⟨form, number, spells, (List.prefix_append part more).trans within⟩

theorem parts_cons_ne_nil (byte : UInt8) (bytes : Bytes) : parts none (byte :: bytes) ≠ [] := by
  obtain ⟨own, number, rest, cut, spells⟩ | ⟨_, _, _, _, broken⟩ := parts_front byte bytes
  · rw [cut, spells.read]
    exact List.cons_ne_nil _ _
  · rw [broken]
    exact List.cons_ne_nil _ _

namespace Spells

variable {own more : Bytes} {number code : Nat}

theorem ne_nil (spells : Spells own number) : own ≠ [] := by
  rintro rfl
  cases spells

theorem alone (spells : Spells own number) (longer : Spells (own ++ more) code) : more = [] := by
  cases more with
  | nil => rfl
  | cons byte more =>
    have first := spells.read (byte :: more)
    have second := longer.read []
    rw [List.append_nil, first, List.cons.injEq] at second
    exact absurd second.2 (parts_cons_ne_nil byte more)

theorem isTail {byte : UInt8} {tail : Bytes} (spells : Spells (byte :: tail) number) :
    ∀ other ∈ tail, IsTail other := by
  cases spells with
  | one => exact nofun
  | two _ _ tailed _ => exact List.forall_mem_singleton.mpr tailed
  | three _ _ _ _ tailed last _ =>
    exact List.forall_mem_cons.mpr ⟨tailed, List.forall_mem_singleton.mpr last⟩
  | four _ _ _ _ tailed third last _ =>
    exact List.forall_mem_cons.mpr ⟨tailed, List.forall_mem_cons.mpr
      ⟨third, List.forall_mem_singleton.mpr last⟩⟩

end Spells

namespace Malformed

variable {part rest other behind : Bytes}

theorem begins {byte : UInt8} {more : Bytes} (malformed : Malformed (part ++ byte :: more) rest)
    (some : part ≠ []) : Begins (part ++ byte :: more) := by
  refine malformed.begun.resolve_left fun single => ?_
  have length := List.length_pos_iff.mpr some
  rw [List.length_append, List.length_cons] at single
  omega

theorem not_spells {own : Bytes} {number : Nat} (malformed : Malformed part rest)
    (spells : Spells own number) (same : own ++ behind = part ++ rest) : False := by
  obtain ⟨more, rfl, rfl⟩ | ⟨more, rfl, rfl⟩ := List.append_eq_append_iff.mp same
  · cases more with
    | nil => exact malformed.unspelled number (by rwa [List.append_nil])
    | cons byte more =>
      obtain ⟨form, code, longer, beyond, rfl⟩ := malformed.begins spells.ne_nil
      rw [List.append_assoc] at longer
      exact List.cons_ne_nil _ _ (spells.alone longer)
  · cases more with
    | nil => exact malformed.unspelled number (by rwa [List.append_nil] at spells)
    | cons byte more =>
      refine malformed.longest byte (more ++ behind) rfl ⟨_, number, spells, more, ?_⟩
      rw [List.append_assoc, List.singleton_append]

theorem not_longer {byte : UInt8} {more : Bytes} (malformed : Malformed part rest)
    (longer : Malformed (part ++ byte :: more) behind)
    (same : rest = byte :: more ++ behind) : False := by
  have begun := longer.begins malformed.some
  rw [← List.singleton_append, ← List.append_assoc] at begun
  exact malformed.longest byte (more ++ behind) same begun.of_append

theorem unique (first : Malformed part rest) (second : Malformed other behind)
    (same : part ++ rest = other ++ behind) : part = other ∧ rest = behind := by
  obtain ⟨more, rfl, split⟩ | ⟨more, rfl, split⟩ := List.append_eq_append_iff.mp same
  · cases more with
    | nil => exact ⟨(List.append_nil part).symm, split⟩
    | cons byte more => exact (first.not_longer second split).elim
  · cases more with
    | nil => exact ⟨List.append_nil other, split.symm⟩
    | cons byte more => exact (second.not_longer first split).elim

theorem read (malformed : Malformed part rest) :
    parts none (part ++ rest) = none :: parts none rest := by
  obtain ⟨byte, more, rfl⟩ := List.exists_cons_of_ne_nil malformed.some
  obtain ⟨own, number, behind, cut, spells⟩ | ⟨other, behind, cut, again, broken⟩ :=
    parts_front byte (more ++ rest)
  · exact (malformed.not_spells spells cut.symm).elim
  · rw [List.cons_append, broken, (malformed.unique again cut).2]

end Malformed

theorem Decodes.eq_decodeLossy {bytes : Bytes} {characters : List Char}
    (decodes : Decodes bytes characters) : characters = decodeLossy bytes := by
  induction decodes with
  | nothing => rfl
  | character spells _ ih =>
    rw [ih, decodeLossy, decodeLossy, spells.read, List.map_cons]
    rfl
  | malformed malformed _ ih =>
    rw [ih, decodeLossy, decodeLossy, malformed.read, List.map_cons]
    rfl

theorem decodes_encode (text : String) : Decodes (encode text) text.toList := by
  rw [← decodeLossy_encode text]
  exact decodes_decodeLossy _

theorem Decodes.mem_of_low {bytes : Bytes} {characters : List Char} {character : Char}
    (decodes : Decodes bytes characters) (low : character.toNat < 128)
    (present : character ∈ characters) : UInt8.ofNat character.toNat ∈ bytes := by
  induction decodes with
  | nothing => cases present
  | character spells _ ih =>
    obtain rfl | later := List.mem_cons.mp present
    · rw [spells.encoded, utf8EncodeChar_low low]
      exact List.mem_append_left _ (List.mem_singleton.mpr rfl)
    · exact List.mem_append_right _ (ih later)
  | malformed _ _ ih =>
    obtain rfl | later := List.mem_cons.mp present
    · exact absurd low (by decide)
    · exact List.mem_append_right _ (ih later)

def BeginsLow (bytes : Bytes) : Prop := ∀ byte rest, bytes = byte :: rest → byte.toNat < 128

theorem Malformed.append {part rest after : Bytes} (malformed : Malformed part rest)
    (low : BeginsLow after) : Malformed part (rest ++ after) := by
  refine ⟨malformed.some, malformed.unspelled, malformed.begun, ?_⟩
  intro next more same begun
  cases rest with
  | cons other rest =>
    cases same
    exact malformed.longest next rest rfl begun
  | nil =>
    obtain ⟨byte, front, rfl⟩ := List.exists_cons_of_ne_nil malformed.some
    obtain ⟨form, number, spells, beyond, rfl⟩ := begun
    rw [List.cons_append, List.cons_append, List.append_assoc] at spells
    have tailed := (spells.isTail next (by simp)).1
    exact absurd (low next more same) (by omega)

theorem Decodes.append {before after : Bytes} {characters others : List Char}
    (decodes : Decodes before characters) (behind : Decodes after others) (low : BeginsLow after) :
    Decodes (before ++ after) (characters ++ others) := by
  induction decodes with
  | nothing => exact behind
  | character spells _ ih =>
    rw [List.append_assoc]
    exact .character spells ih
  | malformed malformed _ ih =>
    rw [List.append_assoc]
    exact .malformed (malformed.append low) ih

end ChartManifests.Text.Utf8
