import ChartManifests.Proofs.Host.Places
/-!
Where paths lead to. The way of a path depends on the directories and links that stand on it and on
nothing else, so what is written into a file does not lead a path astray, and neither does a dot on
the way.
-/

namespace ChartManifests.Files

variable {before after : Files} {through : Bool}

theorem walk_congr (same : ∀ place, after.standing? place = before.standing? place)
    {first second : Location → String → List String → Except FileFault Location}
    (alike : ∀ here target rest, second here target rest = first here target rest) :
    ∀ names here, after.walk through second here names = before.walk through first here names := by
  intro names
  induction names with
  | nil => exact fun _ => rfl
  | cons name rest ih =>
    intro here
    simp only [walk, same, ih, alike]

theorem follow_congr (same : ∀ place, after.standing? place = before.standing? place) :
    ∀ count here names,
      after.follow through count here names = before.follow through count here names := by
  intro count
  induction count with
  | zero => exact fun here names => walk_congr same (fun _ _ _ => rfl) names here
  | succ count ih =>
    intro here names
    exact walk_congr same (fun _ _ _ => by rw [ih]) names here

theorem find_congr (same : ∀ place, after.standing? place = before.standing? place)
    (current : Location) (text : String) : after.find current text = before.find current text := by
  simp only [find, locate, placeOf, occupied, follow_congr same, same]

structure SameWays (before after : Files) : Prop where
  directories : ∀ place, after.standing? place = some .directory ↔
    before.standing? place = some .directory
  links : ∀ place target, after.standing? place = some (.link target) ↔
    before.standing? place = some (.link target)

theorem SameWays.refl (files : Files) : SameWays files files :=
  ⟨fun _ => Iff.rfl, fun _ _ => Iff.rfl⟩

theorem SameWays.walk (same : SameWays before after)
    {first second : Location → String → List String → Except FileFault Location} {goal : Location}
    (alike : ∀ here target rest, first here target rest = .ok goal →
      second here target rest = .ok goal) :
    ∀ names here, before.walk through first here names = .ok goal →
      after.walk through second here names = .ok goal := by
  intro names
  induction names with
  | nil => exact fun _ led => led
  | cons name rest ih =>
    intro here led
    unfold Files.walk at led ⊢
    -- Only a directory can be walked through; anything else has ended the way in the first tree.
    cases standing : before.standing? here with
    | none => simp [standing] at led
    | some entry =>
      cases entry with
      | directory =>
        rw [(same.directories here).mpr standing]
        simp only [standing] at led ⊢
        by_cases long : longestName < name.length
        · simp [long] at led
        by_cases dot : name = "."
        · simp only [dot, if_true] at led ⊢
          exact ih here led
        by_cases up : name = ".."
        · simp only [up, if_true] at led ⊢
          exact ih here.dropLast led
        simp only [long, dot, up, if_false] at led ⊢
        split at led
        next target linked =>
          rw [(same.links _ _).mpr linked]
          by_cases ends : (rest.isEmpty && !through) = true
          · simp only [ends, if_true] at led ⊢
            exact led
          · simp only [ends] at led ⊢
            exact alike here target rest led
        next unlinked =>
          split
          next target linked => exact absurd ((same.links _ _).mp linked) (unlinked target)
          next => exact ih _ led
      | _ => simp [standing] at led

theorem SameWays.follow (same : SameWays before after) {goal : Location} :
    ∀ count here names, before.follow through count here names = .ok goal →
      after.follow through count here names = .ok goal := by
  intro count
  induction count with
  | zero => exact fun here names => same.walk (fun _ _ _ led => led) names here
  | succ count ih =>
    intro here names
    refine same.walk ?_ names here
    intro between target rest led
    by_cases nowhere : target = ""
    · simp [nowhere] at led
    · simp only [nowhere, if_false] at led ⊢
      exact ih _ _ led

theorem locate_iff {files : Files} {current goal : Location} {text : String} :
    files.locate current text = .ok goal ↔ text ≠ "" ∧ text.length < longestPath ∧
      files.follow true longestChain (origin current text) (steps text) = .ok goal := by
  unfold locate placeOf
  by_cases nowhere : text = ""
  · simp [nowhere]
  by_cases long : longestPath ≤ text.length
  · simp [nowhere, long, Nat.not_lt.mpr long]
  · simp [nowhere, long, Nat.not_le.mp long]

theorem SameWays.locate (same : SameWays before after) {current goal : Location} {text : String}
    (led : before.locate current text = .ok goal) : after.locate current text = .ok goal := by
  obtain ⟨some, short, followed⟩ := locate_iff.mp led
  exact locate_iff.mpr ⟨some, short, same.follow longestChain _ _ followed⟩

section Dots

variable {files : Files} {last : String}
  {onLink : Location → String → List String → Except FileFault Location}

def withoutDots (steps : List String) : List String := steps.filter (· ≠ ".")

theorem walk_dot (here : Location) (next : String) (rest : List String) :
    files.walk true onLink here ("." :: next :: rest) =
      files.walk true onLink here (next :: rest) := by
  have short : ¬ longestName < ".".length := by decide
  conv => lhs; unfold walk
  cases standing : files.standing? here with
  | none => simp only [walk, standing]
  | some entry =>
    cases entry with
    | directory => simp only [if_neg short, if_true]
    | _ => simp only [walk, standing]

theorem walk_withoutDots
    (alike : ∀ here target front, onLink here target (withoutDots front ++ [last]) =
      onLink here target (front ++ [last])) :
    ∀ front here, files.walk true onLink here (withoutDots front ++ [last]) =
      files.walk true onLink here (front ++ [last]) := by
  intro front
  induction front with
  | nil => exact fun _ => rfl
  | cons name rest ih =>
    intro here
    by_cases dot : name = "."
    · subst dot
      have dropped : withoutDots ("." :: rest) = withoutDots rest := rfl
      rw [dropped, ih here]
      cases rest with
      | nil => exact (walk_dot here last []).symm
      | cons next more => exact (walk_dot here next (more ++ [last])).symm
    · have kept : withoutDots (name :: rest) = name :: withoutDots rest := by
        simp [withoutDots, dot]
      rw [kept, List.cons_append, List.cons_append, walk, walk]
      simp only [ih, alike, Bool.not_true, Bool.and_false]

theorem follow_withoutDots : ∀ count front here,
    files.follow true count here (withoutDots front ++ [last]) =
      files.follow true count here (front ++ [last]) := by
  intro count
  induction count with
  | zero => exact walk_withoutDots fun _ _ _ => rfl
  | succ count ih =>
    refine walk_withoutDots fun here target front => ?_
    -- The steps of the link keep their dots, so both ways are compared with the one without any.
    have shortened := ih (steps target ++ withoutDots front) (origin here target)
    have whole := ih (steps target ++ front) (origin here target)
    have same : withoutDots (steps target ++ withoutDots front) =
        withoutDots (steps target ++ front) := by
      simp [withoutDots]
    rw [same, whole, List.append_assoc, List.append_assoc] at shortened
    rw [shortened]

end Dots

end ChartManifests.Files
