import ChartManifests.Host.Files
/-!
What stands in the places of a tree after a change to it. A change shows in the place that it is
about, in the places below it, or in those that share its node, and nowhere else.
-/

namespace ChartManifests.Files

variable (files : Files) (location other : Location)

theorem lookup_filter (keep : Location → Bool) : ∀ places : List (Location × Nat),
    (places.filter fun place => keep place.1).lookup other =
      if keep other then places.lookup other else none := by
  intro places
  induction places with
  | nil => simp
  | cons place rest ih =>
    obtain ⟨name, number⟩ := place
    by_cases same : other = name
    · subst name
      cases kept : keep other with
      | true => simp [kept]
      | false => simp [kept, ih]
    · have differs : (other == name) = false := beq_false_of_ne same
      cases kept : keep name with
      | true => simp [kept, List.lookup_cons, differs, ih]
      | false => simp [kept, List.lookup_cons, differs, ih]

theorem number?_bind (number : Nat) (present : number < files.nodes.size) :
    (files.bind location number present).number? other =
      if other = location then some number else files.number? other := by
  simp only [number?, bind]
  rw [List.lookup_append, lookup_filter other fun place => decide (place ≠ location)]
  by_cases same : other = location
  · simp [same]
  · simp [same, List.lookup_cons, beq_false_of_ne same]

theorem number?_erase :
    (files.erase location).number? other =
      if location.isPrefixOf other then none else files.number? other := by
  simp only [number?, erase]
  rw [lookup_filter other fun place => !location.isPrefixOf place]
  cases location.isPrefixOf other <;> rfl

theorem number?_add (entry : Entry) (mode : Nat) :
    (files.add location entry mode).number? other =
      if other = location then some files.nodes.size else files.number? other := by
  rw [add, number?_bind]
  rfl

theorem node?_add (entry : Entry) (mode : Nat) :
    (files.add location entry mode).node? other =
      if other = location then some ⟨entry, mode, files.now⟩ else files.node? other := by
  simp only [node?, number?_add]
  by_cases same : other = location
  · simp [same, add, bind]
  · simp only [if_neg same, add, bind]
    cases found : files.number? other with
    | none => rfl
    | some number =>
      have below : number ≠ files.nodes.size := Nat.ne_of_lt (number?_lt found)
      simp [Array.getElem?_push, below]

theorem standing?_add (entry : Entry) (mode : Nat) :
    (files.add location entry mode).standing? other =
      if other = location then some entry else files.standing? other := by
  simp only [standing?, node?_add]
  by_cases same : other = location <;> simp [same]

theorem standing?_erase :
    (files.erase location).standing? other =
      if location.isPrefixOf other then none else files.standing? other := by
  simp only [standing?, node?, number?_erase]
  cases location.isPrefixOf other <;> rfl

theorem standing?_removeDirectory :
    (files.removeDirectory location).standing? other =
      if files.isDirectory location ∧ location <+: other then none else files.standing? other := by
  simp only [removeDirectory]
  cases there : files.isDirectory location with
  | true => simp [standing?_erase, List.isPrefixOf_iff_prefix]
  | false => simp

def SameAt (before after : Files) (place : Location) : Prop :=
  after.number? place = before.number? place ∧ after.node? place = before.node? place

section Same

variable {before between after : Files} {place : Location}

theorem SameAt.refl (files : Files) (place : Location) : files.SameAt files place := ⟨rfl, rfl⟩

theorem SameAt.trans (first : before.SameAt between place) (next : between.SameAt after place) :
    before.SameAt after place :=
  ⟨next.1.trans first.1, next.2.trans first.2⟩

theorem SameAt.standing? (same : before.SameAt after place) :
    after.standing? place = before.standing? place :=
  congrArg (Option.map Node.entry) same.2

end Same

theorem add_outside (entry : Entry) (mode : Nat) (outside : other ≠ location) :
    files.SameAt (files.add location entry mode) other :=
  ⟨(files.number?_add location other entry mode).trans (if_neg outside),
    (files.node?_add location other entry mode).trans (if_neg outside)⟩

theorem removeDirectory_outside (outside : ¬ location <+: other) :
    files.SameAt (files.removeDirectory location) other := by
  have away : location.isPrefixOf other = false := by
    rw [← Bool.not_eq_true, List.isPrefixOf_iff_prefix]
    exact outside
  have same : (files.removeDirectory location).number? other = files.number? other := by
    simp only [removeDirectory]
    split
    · rw [number?_erase, away]
      rfl
    · rfl
  refine ⟨same, ?_⟩
  rw [node?, node?, same]
  simp only [removeDirectory]
  split <;> rfl

theorem isDirectory_iff : files.isDirectory location = true ↔
    files.standing? location = some .directory := by
  simp [isDirectory]

theorem isDirectory_removeDirectory_self :
    (files.removeDirectory location).isDirectory location = false := by
  rw [← Bool.not_eq_true, isDirectory_iff, standing?_removeDirectory]
  by_cases there : files.isDirectory location = true
  · simp [there]
  · simp only [there, Bool.false_eq_true, false_and, if_false]
    rw [isDirectory_iff] at there
    exact there

section Tree

variable {files location}

def IsTree (files : Files) : Prop :=
  ∀ place name, files.standing? (place ++ [name]) ≠ none → files.standing? place = some .directory

theorem IsTree.none_behind (tree : files.IsTree) {rest : Location} : ∀ {location},
    files.standing? location = none → files.standing? (location ++ rest) = none := by
  induction rest with
  | nil => simp
  | cons name rest ih =>
    intro location nothing
    have next : files.standing? (location ++ [name]) = none := by
      refine Classical.byContradiction fun standing => ?_
      have outer := tree location name standing
      rw [nothing] at outer
      cases outer
    rw [List.append_cons]
    exact ih next

theorem isTree_empty : empty.IsTree := fun _ _ standing => absurd rfl standing

theorem IsTree.add (tree : files.IsTree) (free : files.standing? location = none)
    (around : location ≠ [] → files.standing? location.dropLast = some .directory)
    (entry : Entry) (mode : Nat) : (files.add location entry mode).IsTree := by
  intro place name standing
  rw [standing?_add] at standing ⊢
  by_cases own : place ++ [name] = location
  · subst own
    have outer := around (by simp)
    rw [List.dropLast_concat] at outer
    rwa [if_neg (by simp)]
  · rw [if_neg own] at standing
    have apart : place ≠ location := by
      rintro rfl
      exact standing (tree.none_behind free)
    rw [if_neg apart]
    exact tree place name standing

end Tree

end ChartManifests.Files
