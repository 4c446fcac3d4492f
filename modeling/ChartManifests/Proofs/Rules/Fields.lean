import ChartManifests.Proofs.Result
import ChartManifests.Proofs.Text.Expression
import ChartManifests.Rules.Fields
/-!
What the functions of rules do to texts: the words of a text are all that is not blank in it, and a
text in which something is replaced stays as it is around the parts that an expression stands for.
-/

namespace ChartManifests.Rules

open Text (Expression)

section Reading

theorem repeated_proper {body : Expression} (proper : body.Proper) (bound : Nat)
    (characters : List Char) : (repeated bound body characters).1.Proper := by
  induction bound generalizing body characters with
  | zero => exact proper
  | succ bound ih =>
    have again {low : Nat} {high : Option Nat} (ordered : ∀ most ∈ high, low ≤ most) :
        (Expression.repeated low high body).Proper := ⟨ordered, proper⟩
    unfold repeated
    split
    · exact ih (again (by simp)) _
    · exact ih (again (by simp)) _
    · exact ih (again fun most _ => Nat.zero_le most) _
    · exact proper

abbrev GivesProper (result : Except PatternFault (Expression × List Char)) : Prop :=
  Gives (fun reading => reading.1.Proper) result

theorem readers_proper (bound : Nat) :
    (∀ inside characters, GivesProper (choices bound inside characters)) ∧
      ∀ inside first characters, GivesProper (sequenceOf bound inside first characters) := by
  induction bound with
  | zero =>
    refine ⟨fun _ _ => ?_, fun _ _ _ => ?_⟩
    · rw [choices]
      exact .ok trivial
    · rw [sequenceOf]
      exact .ok trivial
  | succ bound ih =>
    obtain ⟨choice, sequence⟩ := ih
    constructor
    · intro inside characters
      rw [choices]
      refine .bind (sequence inside true characters) fun first begun => ?_
      dsimp only
      split
      · refine .ite (fun _ => .error _) fun _ => ?_
        exact .bind (choice inside _) fun second other => .ok ⟨begun, other⟩
      · exact .ite (fun _ => .error _) fun _ => .ok begun
    · intro inside first characters
      unfold sequenceOf
      extract_lets follow
      have goesOn (one : Expression) (proper : one.Proper) (rest : List Char) :
          GivesProper (follow one rest) :=
        .bind (sequence inside false _) fun others more =>
          .ok ⟨repeated_proper proper _ _, more⟩
      have single (character : Char) (rest : List Char) :
          GivesProper (follow (.exactly character) rest) := goesOn (.exactly character) trivial _
      split
      · exact .ok trivial
      · exact .ok trivial
      · exact .ite (fun _ => .ok trivial) fun _ => single _ _
      · exact .error _
      · refine .bind (choice true _) fun body begun => ?_
        dsimp only
        split
        · exact goesOn (.group 1 body.1) begun _
        · exact .error _
      · exact .bind (.of _) fun members _ => goesOn (.oneOf _ _) trivial _
      · exact goesOn .anyCharacter trivial _
      · exact goesOn (.edge .start) trivial _
      · exact goesOn (.edge .finish) trivial _
      · exact .ite (fun _ => single '\\' []) fun _ => single _ _
      · exact .ite (fun _ => .error _) fun _ => single _ _

theorem proper_of_expressionOf {text : String} {expression : Expression}
    (read : expressionOf text = .ok expression) : expression.Proper := by
  obtain ⟨reading, begun, ended⟩ := bind_eq_ok.mp read
  have proper := (readers_proper _).1 _ _ _ begun
  dsimp only at ended
  split at ended
  · cases ended
    exact proper
  · cases ended

end Reading

section Words

abbrev isBlank := words.isBlank

theorem filter_dropWhile_isBlank (characters : List Char) :
    (characters.dropWhile isBlank).filter (!isBlank ·) = characters.filter (!isBlank ·) := by
  induction characters with
  | nil => rfl
  | cons character rest ih =>
    by_cases blank : isBlank character = true
    · rw [List.dropWhile_cons_of_pos blank, ih, List.filter_cons_of_neg (by simp [blank])]
    · rw [List.dropWhile_cons_of_neg blank]

theorem word_begun {characters : List Char} (some : characters.dropWhile isBlank ≠ []) :
    ∃ word rest, characters.dropWhile isBlank = word ++ rest ∧ word ≠ [] ∧
      (∀ character ∈ word, isBlank character = false) ∧
      (characters.dropWhile isBlank).takeWhile (!isBlank ·) = word := by
  let begun := characters.dropWhile isBlank
  refine ⟨begun.takeWhile (!isBlank ·), begun.dropWhile (!isBlank ·),
    List.takeWhile_append_dropWhile.symm, fun empty => ?_, fun character member => ?_, rfl⟩
  · obtain ⟨first, rest, shape⟩ := List.exists_cons_of_ne_nil some
    have visible := List.head_dropWhile_not isBlank some
    simp only [shape, List.head_cons] at visible
    rw [show begun = first :: rest from shape,
      List.takeWhile_cons_of_pos (by rw [visible]; rfl)] at empty
    cases empty
  · simpa using List.all_eq_true.mp List.all_takeWhile character member

theorem words_flatten {bound : Nat} {characters : List Char} (enough : characters.length < bound) :
    (words bound characters).flatten = characters.filter (!isBlank ·) := by
  induction bound generalizing characters with
  | zero => exact absurd enough (Nat.not_lt_zero _)
  | succ bound ih =>
    rw [words, ← filter_dropWhile_isBlank]
    have short := (List.dropWhile_suffix isBlank (l := characters)).length_le
    split
    next none => rw [none]; rfl
    next some =>
      obtain ⟨word, rest, shape, nonempty, visible, begun⟩ := word_begun some
      have whole : word.filter (!isBlank ·) = word :=
        List.filter_eq_self.mpr fun character member => by simp [visible character member]
      have positive := List.length_pos_iff.mpr nonempty
      rw [shape, List.length_append] at short
      dsimp only
      rw [begun, shape, List.drop_left, List.flatten_cons, ih (by omega), List.filter_append,
        whole]

theorem mem_words {bound : Nat} {characters word : List Char}
    (member : word ∈ words bound characters) :
    word ≠ [] ∧ ∀ character ∈ word, isBlank character = false := by
  induction bound generalizing characters with
  | zero => cases member
  | succ bound ih =>
    rw [words] at member
    split at member
    next => cases member
    next some =>
      obtain ⟨first, _, _, nonempty, visible, begun⟩ := word_begun some
      rcases List.mem_cons.mp member with same | later
      · rw [same, begun]
        exact ⟨nonempty, visible⟩
      · exact ih later

end Words

section Replacing

variable {expression : Expression} {by_ : List Char}

/-- A text behind another, and what becomes of it if so many parts that an expression stands for are
replaced. -/
inductive Replaces (expression : Expression) (by_ : List Char) :
    List Char → List Char → List Char → Nat → Prop
  | done (before text) : Replaces expression by_ before text text 0
  | keep {before text result count} (character) :
      Replaces expression by_ (before ++ [character]) text result count →
      Replaces expression by_ before (character :: text) (character :: result) count
  | put {before matched text result count} :
      expression.StandsFor false before matched text →
      Replaces expression by_ (before ++ matched) text result count →
      Replaces expression by_ before (matched ++ text) (replacement matched by_ ++ result)
        (count + 1)

theorem Replaces.skip {before text result : List Char} {count : Nat} (skipped : List Char)
    (rest : Replaces expression by_ (before ++ skipped) text result count) :
    Replaces expression by_ before (skipped ++ text) (skipped ++ result) count := by
  induction skipped generalizing before with
  | nil => simpa using rest
  | cons character skipped ih => exact .keep character (ih (by simpa using rest))

theorem Replaces.ite {before text : List Char} {condition : Prop} [Decidable condition]
    {one other : List Char × Nat}
    (holds : condition → Replaces expression by_ before text one.1 one.2)
    (fails : ¬ condition → Replaces expression by_ before text other.1 other.2) :
    Replaces expression by_ before text (if condition then one else other).1
      (if condition then one else other).2 := by
  split
  next met => exact holds met
  next unmet => exact fails unmet

theorem Replaces.part {before skipped matched text result : List Char} {count : Nat}
    (stands : expression.StandsFor false (before ++ skipped) matched text)
    (rest : Replaces expression by_ (before ++ skipped ++ matched) text result count) :
    Replaces expression by_ before (skipped ++ (matched ++ text))
      (skipped ++ replacement matched by_ ++ result) (count + 1) := by
  rw [List.append_assoc]
  exact .skip skipped (.put stands rest)

theorem Replaces.nowhere {before skipped text result : List Char} {count : Nat} (left : Bool)
    (stands : expression.StandsFor false (before ++ skipped) [] text)
    (rest : Replaces expression by_ (before ++ skipped) text result count) :
    Replaces expression by_ before (skipped ++ text)
      (skipped ++ (if left then [] else replacement [] by_) ++ result)
      (count + if left then 0 else 1) := by
  cases left with
  | true => simpa using Replaces.skip skipped rest
  | false => exact .part stands (by simpa using rest)

theorem Replaces.unchanged {before text result : List Char} {count : Nat}
    (replaced : Replaces expression ['&'] before text result count) : result = text := by
  induction replaced with
  | done => rfl
  | keep character _ ih => rw [ih]
  | put _ _ ih => rw [ih, replacement, replacement, List.append_nil]

theorem skipped_of_first {passed characters : List Char} {found : Expression.Found}
    (first : expression.IsFirst false (passed.reverse ++ characters) passed.length found) :
    ∃ skipped, found.before.drop passed.length = skipped ∧
      found.before = passed.reverse ++ skipped ∧
      characters = skipped ++ (found.matched ++ found.after) := by
  have whole := first.whole
  rw [List.append_assoc] at whole
  obtain ⟨skipped, before, rest⟩ | ⟨more, before, rest⟩ := List.append_eq_append_iff.mp whole
  · exact ⟨skipped, by rw [before, ← List.length_reverse, List.drop_left], before, rest⟩
  · have lengths := congrArg List.length before
    rw [List.length_append, List.length_reverse] at lengths
    obtain rfl : more = [] := List.eq_nil_of_length_eq_zero (by have := first.behind; omega)
    rw [List.append_nil] at before
    exact ⟨[], by rw [← before, ← List.length_reverse, List.drop_length], by simp [before], rest.symm⟩

theorem replaceFrom_pos {every : Bool} {bound : Nat} {passed characters : List Char}
    {found : Expression.Found}
    (met : Expression.findFrom false (fun _ _ => true) expression passed characters = some found) :
    0 < (replaceFrom expression every by_ (bound + 1) passed false characters).2 := by
  rw [replaceFrom, met]
  simp only [Bool.and_false]
  split
  · split
    · exact Nat.one_pos
    · split
      · exact Nat.one_pos
      · exact Nat.succ_pos _
  · split
    · exact Nat.one_pos
    · exact Nat.succ_pos _

theorem replaceFrom_once (bound : Nat) (passed : List Char) (justReplaced : Bool)
    (characters : List Char) :
    (replaceFrom expression false by_ bound passed justReplaced characters).2 ≤ 1 := by
  induction bound generalizing passed justReplaced characters with
  | zero => exact Nat.zero_le 1
  | succ bound ih =>
    rw [replaceFrom]
    split
    next => exact Nat.zero_le 1
    next found _ =>
      dsimp only
      cases here : (found.before.drop passed.length).isEmpty && justReplaced with
      | true =>
        simp only [if_true, Nat.add_zero]
        split
        · split
          · exact Nat.zero_le 1
          · exact ih _ _ _
        · exact Nat.le_refl 1
      | false =>
        split
        · split <;> exact Nat.le_refl 1
        · exact Nat.le_refl 1

theorem substitute_once (by_ text : String) : (substitute expression false by_ text).2 ≤ 1 := by
  rw [substitute]
  exact replaceFrom_once _ _ _ _

variable (proper : expression.Proper)
include proper

theorem replaceFrom_replaces (every : Bool) (bound : Nat) (passed : List Char) (justReplaced : Bool)
    (characters : List Char) :
    Replaces expression by_ passed.reverse characters
      (replaceFrom expression every by_ bound passed justReplaced characters).1
      (replaceFrom expression every by_ bound passed justReplaced characters).2 := by
  induction bound generalizing passed justReplaced characters with
  | zero => exact .done _ _
  | succ bound ih =>
    rw [replaceFrom]
    obtain ⟨missed, _⟩ | ⟨found, met, first⟩ :=
      Expression.findFrom_cases proper false passed characters
    · rw [missed]
      exact .done _ _
    · obtain ⟨skipped, dropped, before, split⟩ := skipped_of_first first
      have stands := first.stands
      rw [before] at stands
      rw [met]
      simp only [dropped]
      rw [split]
      by_cases empty : found.matched = []
      · rw [empty] at stands
        simp only [empty, List.isEmpty_nil, if_true, List.nil_append]
        cases ended : found.after with
        | nil =>
          rw [ended] at stands
          simpa using Replaces.nowhere (skipped.isEmpty && justReplaced) stands (.done _ [])
        | cons next rest =>
          rw [ended] at stands
          refine .ite (fun once => ?_) fun _ => ?_
          · have placed := (Bool.and_eq_true_iff.mp once).2
            rw [Bool.not_eq_true'] at placed
            rw [placed]
            exact .nowhere false stands (.done _ _)
          · have further := ih (next :: found.before.reverse) false rest
            rw [before] at further ⊢
            exact .nowhere _ stands (.keep next (by simpa using further))
      · simp only [List.isEmpty_iff, empty, if_false]
        refine .ite (fun _ => .part stands (.done _ _)) fun _ => ?_
        have further := ih (found.matched.reverse ++ found.before.reverse) true found.after
        rw [before] at further ⊢
        exact .part stands (by simpa using further)

/-- The result of a substitution is the text with some parts replaced that the expression stands
for, and the count is that of these parts. -/
theorem substitute_replaces (every : Bool) (by_ text : String) :
    Replaces expression by_.toList [] text.toList
      (substitute expression every by_ text).1.toList (substitute expression every by_ text).2 := by
  rw [substitute, String.toList_ofList]
  exact replaceFrom_replaces proper every _ [] false text.toList

theorem substitute_ampersand (every : Bool) (text : String) :
    (substitute expression every "&" text).1 = text :=
  String.toList_injective (substitute_replaces proper every "&" text).unchanged

theorem substitute_count_eq_zero_iff (every : Bool) (by_ text : String) :
    (substitute expression every by_ text).2 = 0 ↔ expression.IsAbsent false text.toList 0 := by
  rw [substitute]
  obtain ⟨missed, absent⟩ | ⟨found, met, first⟩ :=
    Expression.findFrom_cases proper false [] text.toList
  · rw [replaceFrom, missed]
    exact iff_of_true rfl absent
  · refine iff_of_false (Nat.ne_of_gt (replaceFrom_pos met)) fun absent => ?_
    exact absent _ _ _ first.whole (Nat.zero_le _) first.stands

end Replacing

section Dividing

variable {expression : Expression}

def IsBare (expression : Expression) (text : List Char) (place : Nat) : Prop :=
  ∀ before matched after, text = before ++ matched ++ after → matched ≠ [] →
    expression.StandsFor false before matched after → place ≤ before.length

/-- A text is divided at the first part that an expression stands for and that is not empty, and
what follows in the same way. -/
inductive Divides (expression : Expression) : List Char → List (List Char) → Prop
  | whole {text} :
      (∀ before matched after, text = before ++ matched ++ after → matched ≠ [] →
        ¬ expression.StandsFor false before matched after) →
      Divides expression text [text]
  | cut {part matched after parts} : matched ≠ [] →
      expression.StandsFor false part matched after →
      IsBare expression (part ++ matched ++ after) part.length →
      Divides expression after parts →
      Divides expression (part ++ matched ++ after) (part :: parts)

variable (proper : expression.Proper)
include proper

theorem partsBetween_divides {bound : Nat}
    {passed characters : List Char} (enough : characters.length < bound)
    (bare : IsBare expression (passed.reverse ++ characters) passed.length) :
    Divides expression (passed.reverse ++ characters)
      (partsBetween expression bound passed characters) := by
  induction bound generalizing passed characters with
  | zero => exact absurd enough (Nat.not_lt_zero _)
  | succ bound ih =>
    rw [partsBetween]
    obtain ⟨missed, absent⟩ | ⟨found, met, first⟩ :=
      Expression.findFrom_cases proper false passed characters
    · rw [missed]
      refine .whole fun before matched after split nonempty stands => ?_
      exact absent before matched after split (bare _ _ _ split nonempty stands) stands
    · obtain ⟨skipped, dropped, before, split⟩ := skipped_of_first first
      rw [met]
      by_cases empty : found.matched = []
      · have whole : passed.reverse ++ characters = found.before ++ found.after := by
          rw [first.whole, empty, List.append_nil]
        have further : IsBare expression (passed.reverse ++ characters)
            (found.before.length + 1) := by
          intro before matched after split nonempty stands
          obtain ⟨least, longest⟩ :=
            first.first _ _ _ split (bare _ _ _ split nonempty stands) stands
          rcases Nat.lt_or_eq_of_le least with later | same
          · exact later
          · rw [empty] at longest
            exact absurd (List.eq_nil_of_length_eq_zero (Nat.le_zero.mp (longest same))) nonempty
        simp only [List.isEmpty_iff, empty, if_true]
        cases ended : found.after with
        | nil =>
          refine .whole fun before matched after split nonempty stands => ?_
          have later := further _ _ _ split nonempty stands
          have lengths := congrArg List.length (whole.symm.trans split)
          rw [ended] at lengths
          simp only [List.length_append, List.length_nil] at lengths
          omega
        | cons next rest =>
          have shifted : passed.reverse ++ characters
              = (next :: found.before.reverse).reverse ++ rest := by
            rw [whole, ended]
            simp
          have lengths := congrArg List.length split
          rw [empty, ended] at lengths
          simp only [List.length_append, List.length_cons, List.length_nil] at lengths
          rw [shifted] at further ⊢
          exact ih (by omega) (by simpa using further)
      · simp only [List.isEmpty_iff, empty, if_false]
        rw [first.whole]
        refine .cut empty first.stands ?_ ?_
        · rw [← first.whole]
          intro before matched after split nonempty stands
          exact (first.first _ _ _ split (bare _ _ _ split nonempty stands) stands).1
        · have shorter := List.length_pos_iff.mpr empty
          have lengths := congrArg List.length split
          simp only [List.length_append] at lengths
          have begun : IsBare expression ([].reverse ++ found.after) 0 :=
            fun _ _ _ _ _ _ => Nat.zero_le _
          exact ih (by omega) begun

theorem split_divides {text : String} (some : text.toList ≠ []) :
    Divides expression text.toList ((split (.expression expression) text).map String.toList) := by
  have begun : IsBare expression ([].reverse ++ text.toList) ([] : List Char).length :=
    fun _ _ _ _ _ _ => Nat.zero_le _
  have parts := partsBetween_divides proper (Nat.lt_succ_self _) begun
  rw [split, if_neg (by simpa using some), List.map_map]
  simpa [Function.comp_def] using parts

end Dividing

end ChartManifests.Rules
