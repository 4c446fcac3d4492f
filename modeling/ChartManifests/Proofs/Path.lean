import ChartManifests.Path
import ChartManifests.Proofs.Result
/-!
Paths that are read back from their text, and where a path leads by its names alone. Every name
leads one level down and two dots lead one level up, whatever the files are; nothing is above a
root.
-/

namespace ChartManifests

namespace Text

variable {α : Type} [DecidableEq α] {separator : α}

theorem splitAt_append {front : List α} (whole : separator ∉ front) (rest : List α) :
    ∃ part parts, splitAt separator rest = part :: parts ∧
      splitAt separator (front ++ rest) = (front ++ part) :: parts := by
  induction front with
  | nil =>
    cases split : splitAt separator rest with
    | nil => exact absurd split (splitAt_ne_nil separator rest)
    | cons part parts => exact ⟨part, parts, rfl, split⟩
  | cons character front ih =>
    simp only [List.mem_cons, not_or] at whole
    obtain ⟨part, parts, split, behind⟩ := ih whole.2
    refine ⟨part, parts, split, ?_⟩
    simp only [List.cons_append, splitAt, if_neg (Ne.symm whole.1), behind]

theorem splitAt_separator (rest : List α) :
    splitAt separator (separator :: rest) = [] :: splitAt separator rest := by
  simp only [splitAt, if_true]

theorem splitAt_whole {part : List α} (whole : separator ∉ part) :
    splitAt separator part = [part] := by
  obtain ⟨first, others, split, joined⟩ := splitAt_append whole []
  cases split
  simpa using joined

theorem splitAt_append_separator (front rest : List α) :
    splitAt separator (front ++ separator :: rest) =
      splitAt separator front ++ splitAt separator rest := by
  induction front with
  | nil => exact splitAt_separator rest
  | cons character front ih =>
    by_cases same : character = separator
    · subst same
      rw [List.cons_append, splitAt_separator, splitAt_separator, ih, List.cons_append]
    · obtain ⟨part, parts, split⟩ :=
        List.exists_cons_of_ne_nil (splitAt_ne_nil separator front)
      rw [split, List.cons_append] at ih
      simp only [List.cons_append, splitAt, if_neg same, ih, split]

theorem splitAt_joinWith : ∀ {parts : List (List α)}, parts ≠ [] →
    (∀ part ∈ parts, separator ∉ part) → splitAt separator (joinWith separator parts) = parts := by
  intro parts
  induction parts with
  | nil => exact fun some _ => absurd rfl some
  | cons part rest ih =>
    intro _ whole
    have own := whole part List.mem_cons_self
    cases rest with
    | nil => exact splitAt_whole own
    | cons next others =>
      rw [joinWith, splitAt_append_separator, splitAt_whole own, List.singleton_append,
        ih (List.cons_ne_nil _ _) fun other present => whole other (List.mem_cons_of_mem _ present)]
      exact List.cons_ne_nil _ _

omit [DecidableEq α] in
theorem mem_joinWith {character : α} {part : List α} {parts : List (List α)}
    (present : part ∈ parts) (inside : character ∈ part) : character ∈ joinWith separator parts := by
  induction parts with
  | nil => cases present
  | cons first rest ih =>
    cases rest with
    | nil =>
      cases List.mem_singleton.mp present
      exact inside
    | cons next others =>
      rw [joinWith]
      · rcases List.mem_cons.mp present with rfl | later
        · exact List.mem_append_left _ inside
        · exact List.mem_append_right _ (List.mem_cons_of_mem _ (ih later))
      · exact List.cons_ne_nil _ _

omit [DecidableEq α] in
theorem joinWith_append {front back : List (List α)} (some : front ≠ []) (more : back ≠ []) :
    joinWith separator (front ++ back) =
      joinWith separator front ++ separator :: joinWith separator back := by
  obtain ⟨first, others, rfl⟩ := List.exists_cons_of_ne_nil more
  induction front with
  | nil => exact absurd rfl some
  | cons part rest ih =>
    cases rest with
    | nil => simp [joinWith]
    | cons next parts =>
      have behind := ih (List.cons_ne_nil next parts)
      simp only [List.cons_append, joinWith, List.append_assoc] at behind ⊢
      rw [behind]

omit [DecidableEq α] in
theorem joinWith_filter_sublist (keep : List α → Bool) : ∀ parts : List (List α),
    (joinWith separator (parts.filter keep)).Sublist (joinWith separator parts) := by
  intro parts
  induction parts with
  | nil => exact List.Sublist.refl _
  | cons part rest ih =>
    cases rest with
    | nil =>
      cases kept : keep part with
      | true => simp [kept, joinWith]
      | false => simp [kept, joinWith]
    | cons next others =>
      have whole : joinWith separator (part :: next :: others) =
          part ++ separator :: joinWith separator (next :: others) := rfl
      rw [whole]
      cases kept : keep part with
      | false =>
        rw [List.filter_cons_of_neg (by simp [kept])]
        exact (ih.cons separator).trans (List.sublist_append_right _ _)
      | true =>
        rw [List.filter_cons_of_pos kept]
        generalize (next :: others).filter keep = rests at ih
        cases rests with
        | nil => exact List.sublist_append_left _ _
        | cons first more => exact (ih.cons_cons separator).append_left part

theorem not_mem_of_mem_splitAt {text part : List α} (present : part ∈ splitAt separator text) :
    separator ∉ part := by
  induction text generalizing part with
  | nil =>
    cases List.mem_singleton.mp present
    exact List.not_mem_nil
  | cons character rest ih =>
    simp only [splitAt] at present
    split at present
    next =>
      rcases List.mem_cons.mp present with rfl | later
      · exact List.not_mem_nil
      · exact ih later
    next differs =>
      split at present
      next first others split =>
        rcases List.mem_cons.mp present with rfl | later
        · simp only [List.mem_cons, not_or]
          exact ⟨Ne.symm differs, ih (split ▸ List.mem_cons_self)⟩
        · exact ih (split ▸ List.mem_cons_of_mem _ later)
      next => exact absurd ‹_› (splitAt_ne_nil separator rest)

end Text

namespace Path

/-- A name can stand in a path: it is neither empty nor a dot, and it has no slash. -/
def Fits (name : Text) : Prop := isName name = true ∧ slash ∉ name

theorem Fits.ne_nil {name : Text} (fits : Fits name) : name ≠ [] := by
  rintro rfl
  exact absurd fits.1 (by decide)

def Proper (path : Path) : Prop := ∀ name ∈ path.names, Fits name

theorem proper_ofText (text : Text) : (ofText text).Proper := by
  intro name present
  obtain ⟨part, named⟩ := List.mem_filter.mp present
  exact ⟨named, Text.not_mem_of_mem_splitAt part⟩

theorem Proper.child {path : Path} (proper : path.Proper) (next : Text) :
    (path.child next).Proper := by
  unfold Path.child append
  split
  next =>
    intro name present
    rcases List.mem_append.mp present with own | new
    · exact proper name own
    · exact proper_ofText next name new
  next => exact proper_ofText next

theorem filter_isName {names : List Text} (fitting : ∀ name ∈ names, Fits name) :
    names.filter isName = names :=
  List.filter_eq_self.mpr fun name present => (fitting name present).1

theorem joinWith_begins {name : Text} (rest : List Text) (fits : Fits name) :
    ∃ first others, Text.joinWith slash (name :: rest) = first :: others ∧ first ≠ slash := by
  cases name with
  | nil => exact absurd fits.1 (by decide)
  | cons first others =>
    have differs : first ≠ slash := by
      rintro rfl
      exact fits.2 List.mem_cons_self
    cases rest with
    | nil => exact ⟨first, others, rfl, differs⟩
    | cons next more => exact ⟨first, _, rfl, differs⟩

theorem text_of_named {path : Path} (named : path.names ≠ []) :
    path.text = originText path.origin ++ Text.joinWith slash path.names := by
  obtain ⟨origin, names⟩ := path
  obtain ⟨first, rest, rfl⟩ := List.exists_cons_of_ne_nil named
  cases origin <;> rfl

theorem splitAt_text {path : Path} (proper : path.Proper) (named : path.names ≠ []) :
    Text.splitAt slash path.text = (originText path.origin).map (fun _ => []) ++ path.names := by
  have split := Text.splitAt_joinWith named fun name present => (proper name present).2
  rw [text_of_named named]
  cases path.origin with
  | relative => exact split
  | root =>
    change Text.splitAt slash (slash :: Text.joinWith slash path.names) = [] :: path.names
    rw [Text.splitAt_separator, split]
  | doubleRoot =>
    change Text.splitAt slash (slash :: slash :: Text.joinWith slash path.names) =
      [] :: [] :: path.names
    rw [Text.splitAt_separator, Text.splitAt_separator, split]

theorem ofText_text {path : Path} (proper : path.Proper) : ofText path.text = path := by
  obtain ⟨origin, names⟩ := path
  cases names with
  | nil => cases origin <;> rfl
  | cons name rest =>
    have fitting : ∀ other ∈ name :: rest, Fits other := proper
    obtain ⟨first, others, begins, differs⟩ :=
      joinWith_begins rest (fitting name List.mem_cons_self)
    have split := Text.splitAt_joinWith (List.cons_ne_nil name rest)
      fun other present => (fitting other present).2
    have kept := filter_isName fitting
    rw [begins] at split
    cases origin with
    | relative =>
      simp only [text, originText, List.nil_append, begins, ofText, originOf, split, kept,
        List.takeWhile_cons, differs, decide_false]
      rfl
    | root =>
      simp only [text, originText, List.singleton_append, begins, ofText, originOf,
        Text.splitAt_separator, split, List.takeWhile_cons, differs, decide_true, decide_false]
      exact congrArg (Path.mk .root) kept
    | doubleRoot =>
      simp only [text, originText, List.cons_append, List.nil_append, begins, ofText, originOf,
        Text.splitAt_separator, split, List.takeWhile_cons, differs, decide_true, decide_false]
      exact congrArg (Path.mk .doubleRoot) kept

theorem text_append {path : Path} {names : List Text} (some : path.names ≠ []) (more : names ≠ []) :
    (Path.mk path.origin (path.names ++ names)).text =
      path.text ++ slash :: Text.joinWith slash names := by
  obtain ⟨origin, own⟩ := path
  obtain ⟨first, rest, rfl⟩ := List.exists_cons_of_ne_nil some
  have joined : Text.joinWith slash ((first :: rest) ++ names) =
      Text.joinWith slash (first :: rest) ++ slash :: Text.joinWith slash names :=
    Text.joinWith_append some more
  simp only [List.cons_append] at joined
  simp only [text, List.cons_append, joined, List.append_assoc]

theorem text_child {path : Path} {name : Text} (some : path.names ≠ [])
    (single : ofText name = ⟨.relative, [name]⟩) :
    (path.child name).text = path.text ++ slash :: name := by
  simp only [child, append, single]
  exact text_append some (List.cons_ne_nil name [])

/-- A text that begins with a slash leads on from a root, wherever it is read. -/
def IsAbsolute (text : Text) : Prop := text.head? = some slash

instance (text : Text) : Decidable (IsAbsolute text) :=
  inferInstanceAs (Decidable (_ = _))

theorem isAbsolute_iff {text : Text} : IsAbsolute text ↔ (ofText text).origin ≠ .relative := by
  cases text with
  | nil => simp [IsAbsolute, ofText, originOf]
  | cons first rest =>
    by_cases slashed : first = slash
    · subst slashed
      refine ⟨fun _ => ?_, fun _ => rfl⟩
      rw [ofText, originOf, List.takeWhile_cons, if_pos (decide_eq_true rfl)]
      split
      next empty => cases empty
      next => nofun
      next => nofun
    · simp [IsAbsolute, ofText, originOf, slashed]

theorem Proper.isAbsolute_text {path : Path} (proper : path.Proper) :
    IsAbsolute path.text ↔ path.origin ≠ .relative := by
  rw [isAbsolute_iff, ofText_text proper]

theorem ofText_of_names {text : Text} (named : ∀ part ∈ Text.splitAt slash text, isName part) :
    ofText text = ⟨.relative, Text.splitAt slash text⟩ := by
  have relative : (ofText text).origin = .relative := by
    refine Classical.byContradiction fun rooted => ?_
    cases text with
    | nil => exact rooted rfl
    | cons first rest =>
      cases Option.some.inj (isAbsolute_iff.mpr rooted)
      have empty := named [] (by rw [Text.splitAt_separator]; exact List.mem_cons_self)
      exact absurd empty (by decide)
  have names : (ofText text).names = Text.splitAt slash text := List.filter_eq_self.mpr named
  rw [← relative, ← names]

theorem ofText_of_fits {name : Text} (fits : Fits name) : ofText name = ⟨.relative, [name]⟩ := by
  have single := Text.splitAt_whole fits.2
  rw [ofText_of_names, single]
  rw [single]
  exact List.forall_mem_singleton.mpr fits.1

theorem text_child_of_names {path : Path} {next : Text} (some : path.names ≠ [])
    (named : ∀ part ∈ Text.splitAt slash next, isName part) :
    (path.child next).text = path.text ++ slash :: next := by
  simp only [child, append, ofText_of_names named]
  rw [text_append some (Text.splitAt_ne_nil slash next), Text.joinWith_splitAt]

def up : Text := [dot, dot]

/-- A step of a way from a root: two dots lead up, every other name down. -/
def step (way : List Text) (name : Text) : List Text :=
  if name = up then way.dropLast else way ++ [name]

def resolved (path : Path) : List Text := path.names.foldl step []

def Within (path outer : Path) : Prop :=
  path.origin = outer.origin ∧ outer.resolved <+: path.resolved

def LiesInside (path outer : Path) : Prop :=
  path.Within outer ∧ outer.resolved ≠ path.resolved

instance (path outer : Path) : Decidable (path.Within outer) :=
  inferInstanceAs (Decidable (_ ∧ _))

instance (path outer : Path) : Decidable (path.LiesInside outer) :=
  inferInstanceAs (Decidable (_ ∧ _))

/-- The level that names lead to from a level, unless they lead above the lowest one on the way. -/
def level? : Nat → List Text → Option Nat
  | level, [] => some level
  | level, name :: rest =>
    if name = up then
      match level with
      | 0 => none
      | below + 1 => level? below rest
    else level? (level + 1) rest

theorem foldl_step_of_level {names : List Text} {level : Nat} (outer : List Text) :
    ∀ inner : List Text, level? inner.length names = some level →
      ∃ rest, names.foldl step (outer ++ inner) = outer ++ rest ∧ rest.length = level := by
  -- A way up takes from `inner` as long as there is a level; `outer` is never touched.
  induction names with
  | nil =>
    intro inner kept
    exact ⟨inner, rfl, Option.some.inj kept⟩
  | cons name names ih =>
    intro inner kept
    simp only [level?] at kept
    simp only [List.foldl_cons, step]
    by_cases upward : name = up
    · simp only [upward, if_true] at kept ⊢
      cases inner with
      | nil => cases kept
      | cons first others =>
        rw [List.dropLast_append_of_ne_nil (List.cons_ne_nil _ _)]
        refine ih _ ?_
        simpa using kept
    · simp only [upward, if_false] at kept ⊢
      rw [List.append_assoc]
      exact ih _ (by simpa using kept)

theorem foldl_step_of_none {names : List Text} (outer : List Text) :
    ∀ inner : List Text, level? inner.length names = none →
      ∃ rest : List Text, (∀ name ∈ rest, name ∈ names) ∧
        names.foldl step (outer ++ inner) = rest.foldl step outer.dropLast := by
  induction names with
  | nil => exact fun _ kept => nomatch kept
  | cons name names ih =>
    intro inner left
    simp only [level?] at left
    simp only [List.foldl_cons, step]
    by_cases upward : name = up
    · simp only [upward, if_true] at left ⊢
      cases inner with
      | nil => exact ⟨names, fun _ => List.mem_cons_of_mem _, by rw [List.append_nil]⟩
      | cons first others =>
        rw [List.dropLast_append_of_ne_nil (List.cons_ne_nil _ _)]
        obtain ⟨rest, inside, same⟩ := ih (first :: others).dropLast (by simpa using left)
        exact ⟨rest, fun other present => List.mem_cons_of_mem _ (inside other present), same⟩
    · simp only [upward, if_false] at left ⊢
      rw [List.append_assoc]
      obtain ⟨rest, inside, same⟩ := ih (inner ++ [name]) (by simpa using left)
      exact ⟨rest, fun other present => List.mem_cons_of_mem _ (inside other present), same⟩

theorem mem_of_getElem?_foldl_step {names : List Text} {name : Text} {position : Nat} :
    ∀ {way : List Text}, (names.foldl step way)[position]? = some name →
      way[position]? = some name ∨ name ∈ names := by
  induction names with
  | nil => exact Or.inl
  | cons first rest ih =>
    intro way present
    rcases ih present with before | later
    · unfold step at before
      split at before
      · rw [List.getElem?_dropLast] at before
        split at before
        · exact Or.inl before
        · cases before
      · rcases Nat.lt_or_ge position way.length with inside | beyond
        · exact Or.inl ((List.getElem?_append_left inside).symm.trans before)
        · rw [List.getElem?_append_right beyond] at before
          exact Or.inr (List.mem_singleton.mp (List.mem_of_getElem? before) ▸ List.mem_cons_self)
    · exact Or.inr (List.mem_cons_of_mem _ later)

theorem foldl_step_of_no_up {names : List Text} (downward : up ∉ names) : ∀ way,
    names.foldl step way = way ++ names := by
  induction names with
  | nil => simp
  | cons name rest ih =>
    simp only [List.mem_cons, not_or] at downward
    intro way
    simp only [List.foldl_cons, step, if_neg (Ne.symm downward.1), ih downward.2,
      List.append_assoc, List.singleton_append]

theorem resolved_of_no_up {path : Path} (downward : up ∉ path.names) :
    path.resolved = path.names := by
  simp only [resolved, foldl_step_of_no_up downward, List.nil_append]

theorem liesInside_of_names {path outer : Path} {first : Text} {rest : List Text}
    (origin : path.origin = outer.origin) (names : path.names = outer.names ++ first :: rest)
    (downward : up ∉ path.names) : path.LiesInside outer := by
  have above : up ∉ outer.names := by
    rw [names, List.mem_append, not_or] at downward
    exact downward.1
  rw [LiesInside, Within, resolved_of_no_up downward, resolved_of_no_up above, names]
  exact ⟨⟨origin, List.prefix_append _ _⟩, by simp⟩

theorem child_relative {path : Path} {next : Text} (relative : (ofText next).origin = .relative) :
    path.child next = ⟨path.origin, path.names ++ (ofText next).names⟩ := by
  simp only [child, append, relative]

theorem origin_child {path : Path} {next : Text} (relative : (ofText next).origin = .relative) :
    (path.child next).origin = path.origin := by
  rw [child_relative relative]

theorem child_rooted {path : Path} {next : Text} (rooted : (ofText next).origin ≠ .relative) :
    path.child next = ofText next := by
  unfold child append
  split
  next relative => exact absurd relative rooted
  next => rfl

theorem origin_child_ne_relative {path : Path} (rooted : path.origin ≠ .relative) (next : Text) :
    (path.child next).origin ≠ .relative := by
  unfold child append
  split
  next => exact rooted
  next other => exact other

theorem resolved_child {path : Path} {next : Text} (relative : (ofText next).origin = .relative) :
    (path.child next).resolved = (ofText next).names.foldl step path.resolved := by
  simp only [resolved, child_relative relative, List.foldl_append]

theorem child_of_fits (path : Path) {name : Text} (fits : Fits name) :
    path.child name = ⟨path.origin, path.names ++ [name]⟩ := by
  have single := ofText_of_fits fits
  rw [child_relative (by rw [single]), single]

theorem isAbsolute_text_child (home : Text) {name : Text} (fits : Fits name) :
    IsAbsolute ((ofText home).child name).text ↔ IsAbsolute home := by
  rw [((proper_ofText home).child name).isAbsolute_text, child_of_fits _ fits, isAbsolute_iff]

theorem exists_behind (text : Text) : ∃ rest, text = originText (originOf text) ++ rest ∧
    (ofText text).names = (Text.splitAt slash rest).filter isName := by
  cases text with
  | nil => exact ⟨[], rfl, rfl⟩
  | cons first behind =>
    by_cases slashed : first = slash
    · subst slashed
      have single : (Text.splitAt slash (slash :: behind)).filter isName =
          (Text.splitAt slash behind).filter isName := by
        rw [Text.splitAt_separator]
        rfl
      cases origin : originOf (slash :: behind) with
      | relative => exact absurd origin (isAbsolute_iff.mp rfl)
      | root => exact ⟨behind, rfl, single⟩
      | doubleRoot =>
        cases behind with
        | nil => cases origin
        | cons second others =>
          by_cases again : second = slash
          · subst again
            refine ⟨others, rfl, single.trans ?_⟩
            rw [Text.splitAt_separator]
            rfl
          · simp [originOf, again] at origin
    · have relative : originOf (first :: behind) = .relative := by simp [originOf, slashed]
      rw [relative]
      exact ⟨_, rfl, rfl⟩

theorem child_text_sublist (home : Text) {name : Text} (fits : Fits name) :
    ((ofText home).child name).text.Sublist (home ++ slash :: name) := by
  obtain ⟨rest, written, names⟩ := exists_behind home
  have single : [name].filter isName = [name] := filter_isName (List.forall_mem_singleton.mpr fits)
  have child : (ofText home).child name =
      ⟨originOf home, (Text.splitAt slash rest ++ [name]).filter isName⟩ := by
    rw [child_of_fits _ fits, names, List.filter_append, single]
    rfl
  have joined : Text.joinWith slash (Text.splitAt slash rest ++ [name]) =
      rest ++ slash :: name := by
    rw [Text.joinWith_append (Text.splitAt_ne_nil slash rest) (List.cons_ne_nil name []),
      Text.joinWith_splitAt]
    rfl
  have named : ((ofText home).child name).names ≠ [] := by
    rw [child, List.filter_append, single]
    exact List.append_ne_nil_of_right_ne_nil _ (List.cons_ne_nil name [])
  have kept : (Text.joinWith slash ((Text.splitAt slash rest ++ [name]).filter isName)).Sublist
      (rest ++ slash :: name) := joined ▸ Text.joinWith_filter_sublist isName _
  have behind := kept.append_left (originText (originOf home))
  rw [← List.append_assoc, ← written] at behind
  rw [text_of_named named, child]
  exact behind

end Path

end ChartManifests
