import ChartManifests.Command
/-!
A command line that shows words is read back as these words. An empty word stands between quotes, so
that it is not lost; a blank inside of a word stands between quotes, so that only the blank that was
put between two words separates; and nothing that means more than itself stands without quotes.
-/

namespace ChartManifests

namespace Text

theorem stands_of_plain {point : CodePoint} (plain : isPlainInShell point = true) :
    isSeparator point = false ∧ point ≠ singleQuote ∧ point ≠ '"' ∧ point ≠ '\\' := by
  refine ⟨?_, ?_, ?_, ?_⟩
  · simp only [isSeparator, Bool.or_eq_false_iff, decide_eq_false_iff_not]
    refine ⟨⟨⟨?_, ?_⟩, ?_⟩, ?_⟩
    all_goals
      rintro rfl
      exact absurd plain (by decide)
  all_goals
    rintro rfl
    exact absurd plain (by decide)

section Reading

variable (begun rest : Text)

theorem readWords_separator (word : Text) :
    readWords .bare (some word) (space :: rest) =
      (readWords .bare none rest).map (word :: ·) := by
  rw [readWords.eq_def]
  rfl

theorem readWords_opened (word : Option Text) :
    readWords .bare word (singleQuote :: rest) = readWords .single (some (word.getD [])) rest := by
  rw [readWords.eq_def]
  cases word <;> rfl

theorem readWords_plain {point : CodePoint} (plain : isPlainInShell point = true)
    (word : Option Text) :
    readWords .bare word (point :: rest) =
      readWords .bare (some (word.getD [] ++ [point])) rest := by
  obtain ⟨joined, noQuote, noDouble, noEscape⟩ := stands_of_plain plain
  rw [readWords.eq_def]
  cases word <;>
    simp only [joined, noQuote, noDouble, noEscape, Bool.false_eq_true, if_false]

theorem readWords_plains {word : Text} (plain : ∀ point ∈ word, isPlainInShell point = true) :
    readWords .bare (some begun) (word ++ rest) = readWords .bare (some (begun ++ word)) rest := by
  induction word generalizing begun with
  | nil => simp only [List.nil_append, List.append_nil]
  | cons point word ih =>
    rw [List.forall_mem_cons] at plain
    rw [List.cons_append, readWords_plain _ plain.1, Option.getD_some, ih _ plain.2,
      List.append_assoc, List.singleton_append]

theorem readWords_quoteInQuotes :
    readWords .single (some begun) (quoteInQuotes ++ rest) =
      readWords .single (some (begun ++ [singleQuote])) rest := by
  have closed : readWords .single (some begun) (quoteInQuotes ++ rest) =
      readWords .bare (some begun) ('"' :: singleQuote :: '"' :: singleQuote :: rest) := rfl
  have doubled : readWords .bare (some begun) ('"' :: singleQuote :: '"' :: singleQuote :: rest) =
      readWords .bare (some (begun ++ [singleQuote])) (singleQuote :: rest) := by
    rw [readWords.eq_def]
    rfl
  rw [closed, doubled, readWords_opened, Option.getD_some]

theorem readWords_insideQuotes (word : Text) :
    readWords .single (some begun) (insideQuotes word ++ singleQuote :: rest) =
      readWords .bare (some (begun ++ word)) rest := by
  induction word generalizing begun with
  | nil => simp [insideQuotes, readWords]
  | cons point word ih =>
    rw [insideQuotes, List.append_assoc]
    by_cases quote : point = singleQuote
    · rw [if_pos quote, readWords_quoteInQuotes, ih, quote, List.append_assoc,
        List.singleton_append]
    · rw [if_neg quote, List.singleton_append, readWords, if_neg quote, Option.getD_some, ih,
        List.append_assoc, List.singleton_append]

theorem readWords_shellWord (word : Text) :
    readWords .bare none (shellWord word ++ rest) = readWords .bare (some word) rest := by
  unfold shellWord
  split
  next empty =>
    rw [List.isEmpty_iff.mp empty]
    rfl
  next some =>
    split
    next plain =>
      rw [List.all_eq_true] at plain
      obtain ⟨point, word, rfl⟩ := List.exists_cons_of_ne_nil (List.isEmpty_eq_false_iff.mp
        (Bool.not_eq_true _ ▸ some))
      rw [List.forall_mem_cons] at plain
      rw [List.cons_append, readWords_plain _ plain.1, Option.getD_none, List.nil_append,
        readWords_plains _ _ plain.2, List.singleton_append]
    next =>
      rw [List.cons_append, List.cons_append, List.append_assoc, List.singleton_append,
        readWords_opened, Option.getD_none, readWords_insideQuotes, List.nil_append]

end Reading

theorem shellLine_cons (word : Text) {rest : List Text} (more : rest ≠ []) :
    shellLine (word :: rest) = shellWord word ++ space :: shellLine rest := by
  cases rest with
  | nil => exact absurd rfl more
  | cons next others => rfl

theorem shellSplit_shellLine (words : List Text) : shellSplit (shellLine words) = some words := by
  unfold shellSplit
  induction words with
  | nil => rfl
  | cons word rest ih =>
    by_cases last : rest = []
    · have alone := readWords_shellWord [] word
      rw [List.append_nil] at alone
      rw [last, shellLine, alone]
      rfl
    · rw [shellLine_cons word last, readWords_shellWord, readWords_separator, ih, Option.map_some]

theorem shellLine_injective {words others : List Text} (same : shellLine words = shellLine others) :
    words = others := by
  have split := shellSplit_shellLine words
  rw [same, shellSplit_shellLine] at split
  exact (Option.some.inj split).symm

/-- The characters of a line that do not stand between single quotes, quotes left out. -/
def exposed : Quotation → Text → Text
  | _, [] => []
  | .bare, point :: rest =>
    if point = singleQuote then exposed .single rest
    else if point = '"' then exposed .double rest
    else point :: exposed .bare rest
  | .single, point :: rest =>
    if point = singleQuote then exposed .bare rest else exposed .single rest
  | .double, point :: rest =>
    if point = '"' then exposed .bare rest else point :: exposed .double rest

/-- A character that means nothing but itself to a shell: one of a plain word, the blank between two
words, or a single quote that stands between double ones. -/
def IsInert (point : CodePoint) : Prop :=
  isPlainInShell point = true ∨ point = space ∨ point = singleQuote

section Exposed

variable {rest : Text} (inert : ∀ point ∈ exposed .bare rest, IsInert point)

include inert

theorem exposed_plains {word : Text} (plain : ∀ point ∈ word, isPlainInShell point = true) :
    ∀ point ∈ exposed .bare (word ++ rest), IsInert point := by
  induction word with
  | nil => exact inert
  | cons point word ih =>
    rw [List.forall_mem_cons] at plain
    obtain ⟨-, noQuote, noDouble, -⟩ := stands_of_plain plain.1
    rw [List.cons_append, exposed, if_neg noQuote, if_neg noDouble, List.forall_mem_cons]
    exact ⟨Or.inl plain.1, ih plain.2⟩

theorem exposed_insideQuotes (word : Text) :
    ∀ point ∈ exposed .single (insideQuotes word ++ singleQuote :: rest), IsInert point := by
  induction word with
  | nil => exact inert
  | cons point word ih =>
    rw [insideQuotes, List.append_assoc]
    by_cases quote : point = singleQuote
    · have written : exposed .single (quoteInQuotes ++ (insideQuotes word ++ singleQuote :: rest)) =
          singleQuote :: exposed .single (insideQuotes word ++ singleQuote :: rest) := rfl
      rw [if_pos quote, written, List.forall_mem_cons]
      exact ⟨Or.inr (Or.inr rfl), ih⟩
    · rw [if_neg quote, List.singleton_append, exposed, if_neg quote]
      exact ih

theorem exposed_shellWord (word : Text) :
    ∀ point ∈ exposed .bare (shellWord word ++ rest), IsInert point := by
  unfold shellWord
  split
  next => exact inert
  next =>
    split
    next plain => exact exposed_plains inert (List.all_eq_true.mp plain)
    next =>
      rw [List.cons_append, List.cons_append, List.append_assoc, List.singleton_append]
      exact exposed_insideQuotes inert word

end Exposed

theorem exposed_shellLine (words : List Text) :
    ∀ point ∈ exposed .bare (shellLine words), IsInert point := by
  induction words with
  | nil => exact nofun
  | cons word rest ih =>
    by_cases last : rest = []
    · have nothing : ∀ point ∈ exposed .bare [], IsInert point := nofun
      have alone := exposed_shellWord nothing word
      rw [List.append_nil] at alone
      rw [last]
      exact alone
    · have separated : exposed .bare (space :: shellLine rest) =
          space :: exposed .bare (shellLine rest) := rfl
      rw [shellLine_cons word last]
      refine exposed_shellWord ?_ word
      rw [separated, List.forall_mem_cons]
      exact ⟨Or.inr (Or.inl rfl), ih⟩

end Text

namespace Command

/-- The line of a command is read back as its words, whatever they are. So commands with other words
have other lines, and a shell finds nothing in a line that it would replace. -/
theorem line_readBack (command : Command) (words : List Text) :
    Text.shellSplit (line { command with words := words.map some }) = some words ∧
    (∀ (other : Command) (others : List Text),
      line { command with words := words.map some } = line { other with words := others.map some } ↔
        words = others) ∧
    ∀ point ∈ Text.exposed .bare (line { command with words := words.map some }),
      Text.IsInert point := by
  have shown : ∀ (command : Command) (words : List Text),
      line { command with words := words.map some } = Text.shellLine words := by
    intro command words
    have given : (fun word : Option Text => word.getD []) ∘ some = id := rfl
    rw [line, List.map_map, given, List.map_id]
  simp only [shown]
  refine ⟨Text.shellSplit_shellLine words, fun _ others => ?_, Text.exposed_shellLine words⟩
  exact ⟨Text.shellLine_injective, fun same => same ▸ rfl⟩

theorem line_readBack_of_quote :
    let words := ["", "it's", "$HOME *"].map Text.ofString
    let command : Command := ⟨words.map some, .general, []⟩
    command.line = "'' 'it'\"'\"'s' '$HOME *'" ∧ Text.shellSplit command.line = some words ∧
      Text.singleQuote ∈ Text.exposed .bare command.line ∧ Text.IsInert Text.singleQuote := by
  intro words command
  have quoted : Text.singleQuote ∈ Text.exposed .bare command.line := by decide
  obtain ⟨split, -, inert⟩ := line_readBack command words
  exact ⟨by decide, split, quoted, inert _ quoted⟩

end Command

end ChartManifests
