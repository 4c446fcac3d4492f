/-!
Text cut at every occurrence of a separator. The parts, joined by the separator, are the text.
-/

namespace ChartManifests.Text

variable {α : Type}

/-- The parts of a text between separators; there is one more of them than separators. -/
def splitAt [DecidableEq α] (separator : α) : List α → List (List α)
  | [] => [[]]
  | character :: rest =>
    if character = separator then [] :: splitAt separator rest
    else
      match splitAt separator rest with
      | part :: parts => (character :: part) :: parts
      | [] => [[character]]

def joinWith (separator : α) : List (List α) → List α
  | [] => []
  | [part] => part
  | part :: parts => part ++ separator :: joinWith separator parts

theorem splitAt_ne_nil [DecidableEq α] (separator : α) (characters : List α) :
    splitAt separator characters ≠ [] := by
  cases characters with
  | nil => simp [splitAt]
  | cons character rest =>
    simp only [splitAt]
    split
    · simp
    · split <;> simp

theorem joinWith_splitAt [DecidableEq α] (separator : α) (characters : List α) :
    joinWith separator (splitAt separator characters) = characters := by
  induction characters with
  | nil => rfl
  | cons character rest ih =>
    simp only [splitAt]
    by_cases same : character = separator
    · rw [if_pos same]
      cases parts : splitAt separator rest with
      | nil => exact absurd parts (splitAt_ne_nil separator rest)
      | cons part others =>
        rw [parts] at ih
        simp [joinWith, ih, same]
    · rw [if_neg same]
      cases parts : splitAt separator rest with
      | nil => exact absurd parts (splitAt_ne_nil separator rest)
      | cons part others =>
        rw [parts] at ih
        cases others with
        | nil => simpa [joinWith] using ih
        | cons next others => simpa [joinWith] using ih

end ChartManifests.Text
