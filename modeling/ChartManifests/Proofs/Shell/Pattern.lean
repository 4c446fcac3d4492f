import ChartManifests.Shell.Pattern
/-!
What patterns of the shell stand for, as long as nothing in them is grouped: a star for any text, and
everything else for one character. A text fits a pattern if the pattern stands for all of it, and the
longest or the shortest beginning that it stands for is what is taken away from the start.
-/

namespace ChartManifests.Shell

def StandsFor : List Glyph → List Char → Prop
  | [], text => text = []
  | .anything :: rest, text => ∃ front behind, text = front ++ behind ∧ StandsFor rest behind
  | glyph :: rest, text =>
    ∃ character behind, text = character :: behind ∧ glyph.admits character = true ∧
      StandsFor rest behind

def Ungrouped (pattern : List Glyph) : Prop :=
  ∀ occurrence alternatives, .group occurrence alternatives ∉ pattern

theorem mem_endsOf {text left : List Char} : left ∈ endsOf text ↔ left <:+ text := by
  induction text with
  | nil => simp [endsOf]
  | cons character rest ih => rw [endsOf, List.mem_cons, ih, List.suffix_cons_iff]

section Longest

theorem length_longer (longest text : List Char) :
    (longer longest text).length = max longest.length text.length := by
  unfold longer
  split <;> omega

theorem longer_cases (longest text : List Char) :
    longer longest text = longest ∨ longer longest text = text := by
  unfold longer
  split
  · exact .inr rfl
  · exact .inl rfl

theorem foldl_longer (start : List Char) (texts : List (List Char)) :
    texts.foldl longer start ∈ start :: texts ∧
      ∀ text ∈ start :: texts, text.length ≤ (texts.foldl longer start).length := by
  induction texts generalizing start with
  | nil => simp
  | cons text rest ih =>
    obtain ⟨reached, bounds⟩ := ih (longer start text)
    rw [List.forall_mem_cons, length_longer] at bounds
    rw [List.foldl_cons, List.forall_mem_cons, List.forall_mem_cons]
    refine ⟨?_, by omega, by omega, bounds.2⟩
    rcases List.mem_cons.mp reached with same | later
    · rw [same]
      rcases longer_cases start text with first | second
      · simp [first]
      · simp [second]
    · exact List.mem_cons_of_mem start (List.mem_cons_of_mem text later)

end Longest

section Leftovers

variable {left : List Char} {texts : List (List Char)}

theorem mem_leftBehind_anything {whole : List Char} (ends : ∀ text ∈ texts, text <:+ whole)
    (bound : Nat) :
    left ∈ leftBehind (bound + 1) .anything texts ↔ ∃ text ∈ texts, left <:+ text := by
  by_cases none : texts = []
  · simp [none, leftBehind]
  have shape : leftBehind (bound + 1) .anything texts = endsOf (texts.foldl longer []) := by
    rw [leftBehind, if_neg (by simpa using none)]
  obtain ⟨reached, bounds⟩ := foldl_longer [] texts
  rw [List.forall_mem_cons] at bounds
  rw [shape, mem_endsOf]
  constructor
  · intro within
    rcases List.mem_cons.mp reached with empty | member
    · obtain ⟨text, member⟩ := List.exists_mem_of_ne_nil texts none
      rw [empty, List.suffix_nil] at within
      exact ⟨text, member, within ▸ List.nil_suffix⟩
    · exact ⟨_, member, within⟩
  · rintro ⟨text, member, within⟩
    have longest : texts.foldl longer [] <:+ whole := by
      rcases List.mem_cons.mp reached with empty | member
      · rw [empty]
        exact List.nil_suffix
      · exact ends _ member
    have covers := List.suffix_of_suffix_length_le (ends text member) longest (bounds.2 text member)
    exact within.trans covers

theorem Glyph.behind?_eq_some_iff {glyph : Glyph} {text left : List Char} :
    glyph.behind? text = some left ↔
      ∃ character, text = character :: left ∧ glyph.admits character = true := by
  cases text with
  | nil => simp [behind?]
  | cons character rest =>
    rw [behind?, Option.ite_none_right_eq_some, Option.some.injEq]
    constructor
    · rintro ⟨admitted, rfl⟩
      exact ⟨character, rfl, admitted⟩
    · rintro ⟨other, same, admitted⟩
      cases same
      exact ⟨admitted, rfl⟩

theorem mem_leftBehind_single {glyph : Glyph} (bound : Nat) (single : glyph ≠ .anything)
    (ungrouped : ∀ occurrence alternatives, glyph ≠ .group occurrence alternatives) :
    left ∈ leftBehind (bound + 1) glyph texts ↔
      ∃ text ∈ texts, ∃ character, text = character :: left ∧ glyph.admits character = true := by
  have shape : leftBehind (bound + 1) glyph texts = texts.filterMap glyph.behind? := by
    cases glyph with
    | anything => exact absurd rfl single
    | group occurrence alternatives => exact absurd rfl (ungrouped occurrence alternatives)
    | _ =>
      rw [leftBehind]
      · exact single
      · exact ungrouped
  simp only [shape, List.mem_filterMap, Glyph.behind?_eq_some_iff]

theorem standsFor_single {glyph : Glyph} {rest : List Glyph} {text : List Char}
    (single : glyph ≠ .anything) : StandsFor (glyph :: rest) text ↔
      ∃ character behind, text = character :: behind ∧ glyph.admits character = true ∧
        StandsFor rest behind := by
  cases glyph with
  | anything => exact absurd rfl single
  | _ => rfl

theorem mem_leftOf {pattern : List Glyph} (ungrouped : Ungrouped pattern) {whole : List Char}
    (ends : ∀ text ∈ texts, text <:+ whole) {bound : Nat} (enough : pattern.length + 1 < bound) :
    left ∈ leftOf bound pattern texts ↔
      ∃ text ∈ texts, ∃ front, text = front ++ left ∧ StandsFor pattern front := by
  induction pattern generalizing texts bound with
  | nil =>
    obtain ⟨bound, rfl⟩ := Nat.exists_eq_add_of_lt enough
    rw [leftOf]
    simp [StandsFor]
  | cons glyph rest ih =>
    obtain ⟨bound, rfl⟩ : ∃ less, bound = less + 2 := ⟨bound - 2, by omega⟩
    have others : Ungrouped rest := fun occurrence alternatives member =>
      ungrouped occurrence alternatives (List.mem_cons_of_mem glyph member)
    have plain : ∀ occurrence alternatives, glyph ≠ .group occurrence alternatives := by
      rintro occurrence alternatives rfl
      exact ungrouped occurrence alternatives List.mem_cons_self
    rw [leftOf]
    split
    next none => simp [List.isEmpty_iff.mp none]
    next some =>
      by_cases star : glyph = .anything
      · subst star
        have further : ∀ text ∈ leftBehind (bound + 1) .anything texts, text <:+ whole := by
          intro text member
          obtain ⟨origin, known, within⟩ := (mem_leftBehind_anything ends bound).mp member
          exact within.trans (ends origin known)
        rw [ih others further (by simpa using enough)]
        constructor
        · rintro ⟨text, member, front, rfl, stands⟩
          obtain ⟨origin, known, passed, rfl⟩ := (mem_leftBehind_anything ends bound).mp member
          exact ⟨_, known, passed ++ front, by simp, passed, front, rfl, stands⟩
        · rintro ⟨text, member, _, rfl, front, behind, rfl, stands⟩
          refine ⟨behind ++ left, ?_, behind, rfl, stands⟩
          exact (mem_leftBehind_anything ends bound).mpr ⟨_, member, front, by simp⟩
      · have members : ∀ {text : List Char}, text ∈ leftBehind (bound + 1) glyph texts ↔ _ :=
          mem_leftBehind_single bound star plain
        have further : ∀ text ∈ leftBehind (bound + 1) glyph texts, text <:+ whole := by
          intro text member
          obtain ⟨origin, known, character, rfl, _⟩ := members.mp member
          exact (List.suffix_cons character text).trans (ends _ known)
        rw [ih others further (by simpa using enough)]
        constructor
        · rintro ⟨text, member, front, rfl, stands⟩
          obtain ⟨origin, known, character, rfl, admitted⟩ := members.mp member
          refine ⟨_, known, character :: front, rfl, ?_⟩
          exact (standsFor_single star).mpr ⟨character, front, rfl, admitted, stands⟩
        · rintro ⟨text, member, _, rfl, stands⟩
          obtain ⟨character, behind, rfl, admitted, stands⟩ := (standsFor_single star).mp stands
          exact ⟨behind ++ left, members.mpr ⟨_, member, character, rfl, admitted⟩, behind, rfl,
            stands⟩

end Leftovers

section Fitting

variable {pattern : List Glyph} (ungrouped : Ungrouped pattern)

theorem length_lt_patternDepth (pattern : List Glyph) : pattern.length < patternDepth pattern := by
  induction pattern with
  | nil => simp [patternDepth]
  | cons glyph rest ih =>
    rw [patternDepth, List.length_cons]
    omega

include ungrouped

theorem mem_leftovers {characters left : List Char} : left ∈ leftovers pattern characters ↔
    ∃ front, characters = front ++ left ∧ StandsFor pattern front := by
  have enough : pattern.length + 1 < patternDepth pattern * (characters.length + 2) + 1 := by
    have deep := length_lt_patternDepth pattern
    have grows := Nat.mul_le_mul_left (patternDepth pattern)
      (Nat.le_add_left 2 characters.length)
    omega
  have ends : ∀ text ∈ [characters], text <:+ characters := by simp
  rw [leftovers, mem_leftOf ungrouped ends enough]
  simp only [List.mem_singleton, exists_eq_left]

theorem fits_iff {characters : List Char} : fits pattern characters = true ↔
    StandsFor pattern characters := by
  rw [fits, List.any_eq_true]
  constructor
  · rintro ⟨left, member, empty⟩
    obtain ⟨front, rfl, stands⟩ := (mem_leftovers ungrouped).mp member
    rw [List.isEmpty_iff.mp empty, List.append_nil]
    exact stands
  · exact fun stands =>
      ⟨[], (mem_leftovers ungrouped).mpr ⟨characters, by simp, stands⟩, rfl⟩

omit ungrouped in
theorem leftovers_extreme (longest : Bool) {characters : List Char}
    (some : leftovers pattern characters ≠ []) : ∃ left ∈ leftovers pattern characters,
      let lengths := (leftovers pattern characters).map List.length
      (if longest then lengths.min? else lengths.max?) = .some left.length ∧
      ∀ other ∈ leftovers pattern characters,
        if longest then left.length ≤ other.length else other.length ≤ left.length := by
  have lengths : (leftovers pattern characters).map List.length ≠ [] := by simpa using some
  cases longest with
  | true =>
    obtain ⟨least, found⟩ := Option.isSome_iff_exists.mp (List.isSome_min?_of_ne_nil lengths)
    obtain ⟨member, bound⟩ := List.min?_eq_some_iff.mp found
    obtain ⟨left, known, rfl⟩ := List.mem_map.mp member
    exact ⟨left, known, found, fun other also => bound _ (List.mem_map_of_mem also)⟩
  | false =>
    obtain ⟨most, found⟩ := Option.isSome_iff_exists.mp (List.isSome_max?_of_ne_nil lengths)
    obtain ⟨member, bound⟩ := List.max?_eq_some_iff.mp found
    obtain ⟨left, known, rfl⟩ := List.mem_map.mp member
    exact ⟨left, known, found, fun other also => bound _ (List.mem_map_of_mem also)⟩

/-- What is taken away from the start of a text is the longest or the shortest beginning that the
pattern stands for, and nothing if it stands for none. -/
theorem trimStart_cases (longest : Bool) (characters : List Char) :
    ((∀ front left, characters = front ++ left → ¬ StandsFor pattern front) ∧
      trimStart longest pattern characters = characters) ∨
    ∃ front, characters = front ++ trimStart longest pattern characters ∧
      StandsFor pattern front ∧
      ∀ other left, characters = other ++ left → StandsFor pattern other →
        if longest then other.length ≤ front.length else front.length ≤ other.length := by
  have members {left : List Char} : left ∈ leftovers pattern characters ↔
    ∃ front, characters = front ++ left ∧ StandsFor pattern front := mem_leftovers ungrouped
  by_cases none : leftovers pattern characters = []
  · refine .inl ⟨fun front left split stands => ?_, by cases longest <;> simp [trimStart, none]⟩
    have member := members.mpr ⟨front, split, stands⟩
    rw [none] at member
    cases member
  · obtain ⟨left, member, extreme⟩ := leftovers_extreme longest none
    obtain ⟨front, split, stands⟩ := members.mp member
    have length : characters.length = front.length + left.length := by
      rw [split, List.length_append]
    have trimmed : trimStart longest pattern characters = left := by
      rw [trimStart, extreme.1, Option.getD_some, length, Nat.add_sub_cancel, split,
        List.drop_left]
    refine .inr ⟨front, trimmed ▸ split, stands, fun other rest split' stands' => ?_⟩
    have bound := extreme.2 rest (members.mpr ⟨other, split', stands'⟩)
    have length' : characters.length = other.length + rest.length := by
      rw [split', List.length_append]
    split at bound <;> rename_i long <;> simp only [long] <;> simp <;> omega

end Fitting

end ChartManifests.Shell
