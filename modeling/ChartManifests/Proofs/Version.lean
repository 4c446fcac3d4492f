import ChartManifests.Version
/-!
Where a version stands in a text. A token is a `v` with at least two numbers behind it; the version
of a text is the token that begins first, and of those that begin there the longest. Reading what
was found once more gives the same version.
-/

namespace ChartManifests.Version

def IsNumber (characters : List Char) : Prop :=
  characters ≠ [] ∧ ∀ character ∈ characters, Text.isDigit character = true

def IsToken (token : List Char) : Prop :=
  ∃ major groups, IsNumber major ∧ groups ≠ [] ∧ (∀ group ∈ groups, IsNumber group) ∧
    token = 'v' :: major ++ groups.flatMap ('.' :: ·)

inductive Continues : List Char → Prop
  | nothing : Continues []
  | digit {character : Char} {rest : List Char} :
      Text.isDigit character = true → Continues rest → Continues (character :: rest)
  | dot {character : Char} {rest : List Char} :
      Text.isDigit character = true → Continues rest → Continues ('.' :: character :: rest)

structure Ends (text : List Char) : Prop where
  digit : ∀ character rest, text = character :: rest → Text.isDigit character = false
  dot : ∀ character rest, text = '.' :: character :: rest → Text.isDigit character = false

theorem isDigit_dot : Text.isDigit '.' = false := by decide

theorem Continues.append {first second : List Char} (begun : Continues first)
    (later : Continues second) : Continues (first ++ second) := by
  induction begun with
  | nothing => exact later
  | digit isDigit _ ih => exact .digit isDigit ih
  | dot isDigit _ ih => exact .dot isDigit ih

theorem continues_of_digits {digits : List Char}
    (all : ∀ character ∈ digits, Text.isDigit character = true) : Continues digits := by
  induction digits with
  | nil => exact .nothing
  | cons character rest ih =>
    rw [List.forall_mem_cons] at all
    exact .digit all.1 (ih all.2)

theorem continues_of_groups {groups : List (List Char)}
    (numbers : ∀ group ∈ groups, IsNumber group) : Continues (groups.flatMap ('.' :: ·)) := by
  induction groups with
  | nil => exact .nothing
  | cons group rest ih =>
    rw [List.forall_mem_cons] at numbers
    obtain ⟨some, digits⟩ := numbers.1
    obtain ⟨character, more, rfl⟩ := List.exists_cons_of_ne_nil some
    rw [List.forall_mem_cons] at digits
    have own : Continues ('.' :: character :: more) :=
      .dot digits.1 (continues_of_digits digits.2)
    exact own.append (ih numbers.2)

theorem Continues.groups {text : List Char} (continues : Continues text) :
    ∃ (digits : List Char) (groups : List (List Char)),
      text = digits ++ groups.flatMap ('.' :: ·) ∧
      (∀ character ∈ digits, Text.isDigit character = true) ∧
      ∀ group ∈ groups, IsNumber group := by
  induction continues with
  | nothing => exact ⟨[], [], rfl, by simp, by simp⟩
  | @digit character rest isDigit _ ih =>
    obtain ⟨digits, groups, same, all, numbers⟩ := ih
    refine ⟨character :: digits, groups, by rw [same, List.cons_append], ?_, numbers⟩
    exact List.forall_mem_cons.mpr ⟨isDigit, all⟩
  | @dot character rest isDigit _ ih =>
    obtain ⟨digits, groups, same, all, numbers⟩ := ih
    refine ⟨[], (character :: digits) :: groups, by simp [same], by simp, ?_⟩
    refine List.forall_mem_cons.mpr ⟨⟨by simp, ?_⟩, numbers⟩
    exact List.forall_mem_cons.mpr ⟨isDigit, all⟩

theorem isToken_iff {token : List Char} :
    IsToken token ↔ ∃ character rest, token = 'v' :: character :: rest ∧
      Text.isDigit character = true ∧ Continues rest ∧ '.' ∈ rest := by
  constructor
  · rintro ⟨major, groups, ⟨some, digits⟩, several, numbers, rfl⟩
    obtain ⟨character, more, rfl⟩ := List.exists_cons_of_ne_nil some
    obtain ⟨group, others, rfl⟩ := List.exists_cons_of_ne_nil several
    rw [List.forall_mem_cons] at digits
    refine ⟨character, more ++ (group :: others).flatMap ('.' :: ·), rfl, digits.1, ?_, by simp⟩
    exact (continues_of_digits digits.2).append (continues_of_groups numbers)
  · rintro ⟨character, rest, rfl, isDigit, continues, dotted⟩
    obtain ⟨digits, groups, rfl, all, numbers⟩ := continues.groups
    refine ⟨character :: digits, groups, ⟨by simp, ?_⟩, ?_, numbers, rfl⟩
    · exact List.forall_mem_cons.mpr ⟨isDigit, all⟩
    · rintro rfl
      rw [List.flatMap_nil, List.append_nil] at dotted
      have isDigit := all '.' dotted
      rw [isDigit_dot] at isDigit
      cases isDigit

section Continuation

theorem continuation_digit {character : Char} (isDigit : Text.isDigit character = true)
    (rest : List Char) : continuation (character :: rest) = character :: continuation rest := by
  rw [continuation.eq_def]
  exact if_pos isDigit

theorem continuation_dot {character : Char} (isDigit : Text.isDigit character = true)
    (rest : List Char) :
    continuation ('.' :: character :: rest) = '.' :: character :: continuation rest := by
  simp [continuation, isDigit_dot, isDigit]

theorem continuation_ends {text : List Char} (ends : Ends text) : continuation text = [] := by
  rw [continuation.eq_def]
  split
  next => rfl
  next character rest =>
    rw [if_neg (by simp [ends.digit character rest rfl])]
    split
    next dotted =>
      subst dotted
      split
      next next more => rw [if_neg (by simp [ends.dot next more rfl])]
      next => rfl
    next => rfl

theorem continuation_append {text rest : List Char} (continues : Continues text)
    (ends : Ends rest) : continuation (text ++ rest) = text := by
  induction continues with
  | nothing => exact continuation_ends ends
  | digit isDigit _ ih => rw [List.cons_append, continuation_digit isDigit, ih]
  | dot isDigit _ ih => rw [List.cons_append, List.cons_append, continuation_dot isDigit, ih]

theorem continuation_cut (text : List Char) :
    Continues (continuation text) ∧ ∃ rest, text = continuation text ++ rest ∧ Ends rest := by
  fun_induction continuation text with
  | case1 => exact ⟨.nothing, [], rfl, by simp, by simp⟩
  | case2 character rest isDigit ih =>
    obtain ⟨continues, behind, same, ends⟩ := ih
    exact ⟨.digit isDigit continues, behind, by rw [List.cons_append, ← same], ends⟩
  | case3 digit more isDigit noDigit ih =>
    obtain ⟨continues, behind, same, ends⟩ := ih
    exact ⟨.dot isDigit continues, behind, by simp only [List.cons_append, ← same], ends⟩
  | case4 digit more other noDigit =>
    refine ⟨.nothing, _, rfl, ?_, ?_⟩
    · rintro character rest ⟨⟩
      exact isDigit_dot
    · rintro character rest ⟨⟩
      simpa using other
  | case5 noDigit =>
    refine ⟨.nothing, _, rfl, ?_, by simp⟩
    rintro character rest ⟨⟩
    exact isDigit_dot
  | case6 character rest noDigit undotted =>
    refine ⟨.nothing, _, rfl, ?_, ?_⟩
    · rintro first others ⟨⟩
      simpa using noDigit
    · rintro first others ⟨⟩
      exact absurd rfl undotted

theorem length_le_continuation {text : List Char} (continues : Continues text)
    (rest : List Char) : text.length ≤ (continuation (text ++ rest)).length := by
  induction continues with
  | nothing => exact Nat.zero_le _
  | digit isDigit _ ih =>
    rw [List.cons_append, continuation_digit isDigit]
    exact Nat.succ_le_succ ih
  | dot isDigit _ ih =>
    rw [List.cons_append, List.cons_append, continuation_dot isDigit]
    exact Nat.succ_le_succ (Nat.succ_le_succ ih)

end Continuation

section Here

theorem here?_eq (character : Char) (rest : List Char) :
    here? ('v' :: character :: rest) =
      if Text.isDigit character = true ∧ '.' ∈ character :: continuation rest
      then some (character :: continuation rest) else none := rfl

theorem here?_sound {text numbers : List Char} (found : here? text = some numbers) :
    IsToken ('v' :: numbers) ∧ ∃ rest, text = 'v' :: numbers ++ rest ∧ Ends rest := by
  unfold here? at found
  split at found
  next character rest =>
    simp only [Option.ite_none_right_eq_some, Option.some.injEq] at found
    obtain ⟨⟨isDigit, dotted⟩, rfl⟩ := found
    obtain ⟨continues, behind, same, ends⟩ := continuation_cut rest
    refine ⟨isToken_iff.mpr ⟨character, _, rfl, isDigit, continues, ?_⟩, behind, ?_, ends⟩
    · obtain own | later := List.mem_cons.mp dotted
      · rw [← own, isDigit_dot] at isDigit
        cases isDigit
      · exact later
    · simp only [List.cons_append, ← same]
  next => cases found

theorem here?_complete {token : List Char} (isToken : IsToken token) (rest : List Char) :
    ∃ numbers, here? (token ++ rest) = some numbers ∧ token.length ≤ numbers.length + 1 := by
  obtain ⟨character, more, rfl, isDigit, continues, dotted⟩ := isToken_iff.mp isToken
  have long := length_le_continuation continues rest
  obtain ⟨_, behind, same, ends⟩ := continuation_cut (more ++ rest)
  have inside : '.' ∈ continuation (more ++ rest) := by
    have first : more <+: continuation (more ++ rest) :=
      List.prefix_of_prefix_length_le (List.prefix_append _ _) ⟨behind, same.symm⟩ long
    exact first.subset dotted
  refine ⟨character :: continuation (more ++ rest), ?_, ?_⟩
  · rw [List.cons_append, List.cons_append, here?_eq,
      if_pos ⟨isDigit, List.mem_cons_of_mem _ inside⟩]
  · simp only [List.length_cons]
    omega

end Here

/-- A token in a text that begins as early as any, and is as long as any that begins there. -/
structure IsFirst (text before token after : List Char) : Prop where
  stands : text = before ++ token ++ after
  isToken : IsToken token
  leftmost : ∀ front other behind, text = front ++ other ++ behind → IsToken other →
    before.length ≤ front.length
  longest : ∀ other behind, text = before ++ other ++ behind → IsToken other →
    other.length ≤ token.length

theorem IsFirst.unique {text before token after front other behind : List Char}
    (first : IsFirst text before token after) (second : IsFirst text front other behind) :
    token = other ∧ after = behind := by
  have sameLength : before.length = front.length :=
    Nat.le_antisymm (first.leftmost _ _ _ second.stands second.isToken)
      (second.leftmost _ _ _ first.stands first.isToken)
  have stands := first.stands.symm.trans second.stands
  simp only [List.append_assoc] at stands
  obtain ⟨rfl, rest⟩ := List.append_inj stands sameLength
  have tokens : token.length = other.length :=
    Nat.le_antisymm (second.longest _ _ first.stands first.isToken)
      (first.longest _ _ second.stands second.isToken)
  exact List.append_inj rest tokens

theorem first?_none {text : List Char} (missing : first? text = none) :
    ¬ ∃ token, IsToken token ∧ token <:+: text := by
  rintro ⟨token, isToken, front, behind, rfl⟩
  induction front with
  | nil =>
    obtain ⟨numbers, found, -⟩ := here?_complete isToken behind
    obtain ⟨character, more, rfl, -⟩ := isToken_iff.mp isToken
    simp only [List.nil_append, List.cons_append] at found missing
    rw [first?, found] at missing
    cases missing
  | cons character rest ih =>
    simp only [List.cons_append, first?] at missing ih
    split at missing
    · cases missing
    · exact ih missing

theorem first?_isFirst {text numbers : List Char} (found : first? text = some numbers) :
    ∃ before after, IsFirst text before ('v' :: numbers) after ∧ Ends after := by
  induction text with
  | nil => cases found
  | cons character rest ih =>
    rw [first?] at found
    split at found
    next own present =>
      cases found
      obtain ⟨isToken, behind, same, ends⟩ := here?_sound present
      refine ⟨[], behind, ⟨same, isToken, fun _ _ _ _ _ => Nat.zero_le _, ?_⟩, ends⟩
      intro other behind stands isOther
      obtain ⟨numbers, again, long⟩ := here?_complete isOther behind
      rw [List.nil_append] at stands
      rw [← stands, present] at again
      cases again
      exact long
    next absent =>
      obtain ⟨before, after, first, ends⟩ := ih found
      have stands : character :: rest = character :: before ++ 'v' :: numbers ++ after := by
        simp only [List.cons_append, ← first.stands]
      refine ⟨character :: before, after, ⟨stands, first.isToken, ?_, ?_⟩, ends⟩
      · intro front other behind same isOther
        cases front with
        | nil =>
          -- A token at this place would have been found here.
          obtain ⟨numbers, present, -⟩ := here?_complete isOther behind
          rw [List.nil_append] at same
          rw [← same, absent] at present
          cases present
        | cons head front =>
          simp only [List.cons_append, List.cons.injEq] at same
          exact Nat.succ_le_succ (first.leftmost front other behind same.2 isOther)
      · intro other behind same isOther
        simp only [List.cons_append, List.cons.injEq, true_and] at same
        exact first.longest other behind same isOther

theorem isFirst_of_ends {token rest : List Char} (isToken : IsToken token) (ends : Ends rest) :
    IsFirst (token ++ rest) [] token rest := by
  refine ⟨rfl, isToken, fun _ _ _ _ _ => Nat.zero_le _, ?_⟩
  intro other behind same isOther
  obtain ⟨numbers, found, long⟩ := here?_complete isOther behind
  obtain ⟨character, more, rfl, isDigit, continues, -⟩ := isToken_iff.mp isToken
  rw [List.nil_append] at same
  rw [← same, List.cons_append, List.cons_append, here?_eq, continuation_append continues ends,
    Option.ite_none_right_eq_some] at found
  cases found.2
  exact long

theorem ends_nil : Ends [] := ⟨by simp, by simp⟩

theorem parse_ok_iff (text : List Char) (number : String) :
    parse text = .ok number ↔
      ∃ before after, IsFirst text before ('v' :: number.toList) after := by
  constructor
  · intro parsed
    unfold parse at parsed
    split at parsed
    next numbers found =>
      cases parsed
      obtain ⟨before, after, first, -⟩ := first?_isFirst found
      exact ⟨before, after, by rwa [String.toList_ofList]⟩
    next => cases parsed
  · rintro ⟨before, after, first⟩
    cases found : first? text with
    | none =>
      have inside : 'v' :: number.toList <:+: text := ⟨before, after, first.stands.symm⟩
      exact absurd ⟨_, first.isToken, inside⟩ (first?_none found)
    | some numbers =>
      obtain ⟨front, behind, other, -⟩ := first?_isFirst found
      have same := (first.unique other).1
      simp only [List.cons.injEq, true_and] at same
      simp only [parse, found, ← same, String.ofList_toList]

theorem parse_error {text : List Char} {failure : Failure} (failed : parse text = .error failure) :
    failure = .noVersion (String.ofList (Text.trim text)) ∧ first? text = none := by
  unfold parse at failed
  split at failed
  next => cases failed
  next missing =>
    cases failed
    exact ⟨rfl, missing⟩

/-- A version is found in a text exactly if there is a token in it. It is the token that begins
first, as far as a token goes there, and it is found again when it is read alone or in front of
something that does not continue it. -/
theorem parse_leftmost_longest (text : List Char) :
    (parse text = .error (.noVersion (String.ofList (Text.trim text))) ↔
      ¬ ∃ token, IsToken token ∧ token <:+: text) ∧
    (∀ failure, parse text = .error failure →
      failure = .noVersion (String.ofList (Text.trim text))) ∧
    ∀ number, (parse text = .ok number ↔
        ∃ before after, IsFirst text before ('v' :: number.toList) after) ∧
      (∀ before after, IsFirst text before ('v' :: number.toList) after → Ends after) ∧
      (parse text = .ok number → parse ('v' :: number.toList) = .ok number ∧
        ∀ rest, Ends rest → parse ('v' :: number.toList ++ rest) = .ok number) := by
  refine ⟨⟨fun failed => first?_none (parse_error failed).2, ?_⟩,
    fun failure failed => (parse_error failed).1, fun number =>
      ⟨parse_ok_iff text number, ?_, ?_⟩⟩
  · intro absent
    cases found : first? text with
    | none => rw [parse, found]
    | some numbers =>
      obtain ⟨before, after, first, -⟩ := first?_isFirst found
      exact absurd ⟨_, first.isToken, before, after, first.stands.symm⟩ absent
  · intro before after first
    cases found : first? text with
    | none => exact absurd ⟨_, first.isToken, before, after, first.stands.symm⟩ (first?_none found)
    | some numbers =>
      obtain ⟨front, behind, other, ends⟩ := first?_isFirst found
      rw [(first.unique other).2]
      exact ends
  · intro parsed
    obtain ⟨before, after, first⟩ := (parse_ok_iff text number).mp parsed
    have again : ∀ rest, Ends rest → parse ('v' :: number.toList ++ rest) = .ok number :=
      fun rest ends => (parse_ok_iff _ number).mpr ⟨[], rest, isFirst_of_ends first.isToken ends⟩
    refine ⟨?_, again⟩
    have alone := again [] ends_nil
    rwa [List.append_nil] at alone

example : first? ['v', '3', ',', 'v', '3', '.', '1', '4', '.'] = some ['3', '.', '1', '4'] := by
  decide

end ChartManifests.Version
