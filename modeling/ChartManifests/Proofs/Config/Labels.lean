import Mathlib.Data.List.Forall2
import Mathlib.Data.List.Induction
import ChartManifests.Config.Document
/-!
Texts by name. Of several texts that are set for one name, the last one holds.
-/

namespace ChartManifests.TextMap

def Holds (entries : List (Text × Text)) (entry : Text × Text) : Prop :=
  ∃ before after, entries = before ++ entry :: after ∧ entry.1 ∉ after.map Prod.fst

theorem mem_putEntry (name text : Text) (entry : Text × Text) (entries : List (Text × Text))
    (unique : (entries.map Prod.fst).Nodup) :
    entry ∈ putEntry name text entries ↔
      entry = (name, text) ∨ entry ∈ entries ∧ entry.1 ≠ name := by
  induction entries with
  | nil => simp [putEntry]
  | cons first rest ih =>
    simp only [List.map_cons, List.nodup_cons] at unique
    unfold putEntry
    by_cases same : first.1 = name
    · rw [if_pos same, List.mem_cons, List.mem_cons, same]
      have others : entry ∈ rest → entry.1 ≠ name := by
        rintro present rfl
        exact unique.1 (same ▸ List.mem_map_of_mem present)
      constructor
      · rintro (set | present)
        · exact Or.inl set
        · exact Or.inr ⟨Or.inr present, others present⟩
      · rintro (set | ⟨rfl | present, differs⟩)
        · exact Or.inl set
        · exact absurd same differs
        · exact Or.inr present
    · rw [if_neg same, List.mem_cons, List.mem_cons, ih unique.2]
      constructor
      · rintro (rfl | set | kept)
        · exact Or.inr ⟨Or.inl rfl, same⟩
        · exact Or.inl set
        · exact Or.inr ⟨Or.inr kept.1, kept.2⟩
      · rintro (set | ⟨rfl | present, differs⟩)
        · exact Or.inr (Or.inl set)
        · exact Or.inl rfl
        · exact Or.inr (Or.inr ⟨present, differs⟩)

theorem holds_concat (entries : List (Text × Text)) (last entry : Text × Text) :
    Holds (entries ++ [last]) entry ↔ entry = last ∨ Holds entries entry ∧ entry.1 ≠ last.1 := by
  constructor
  · rintro ⟨before, after, split, unset⟩
    rcases List.eq_nil_or_concat after with rfl | ⟨middle, final, rfl⟩
    · have same := List.append_inj_right' split rfl
      exact Or.inl (List.singleton_inj.mp same).symm
    · rw [List.concat_eq_append, ← List.cons_append, ← List.append_assoc] at split
      obtain ⟨front, back⟩ := List.append_inj' split rfl
      cases List.singleton_inj.mp back
      simp only [List.concat_eq_append, List.map_append, List.mem_append, not_or] at unset
      exact Or.inr ⟨⟨before, middle, front, unset.1⟩, by simpa using unset.2⟩
  · rintro (rfl | ⟨⟨before, after, rfl, unset⟩, differs⟩)
    · exact ⟨entries, [], rfl, by simp⟩
    · exact ⟨before, after ++ [last], by simp, by simpa using ⟨by simpa using unset, differs⟩⟩

theorem mem_ofEntries (entries : List (Text × Text)) (entry : Text × Text) :
    entry ∈ (ofEntries entries).entries ↔ Holds entries entry := by
  induction entries using List.reverseRecOn with
  | nil => simp [ofEntries, empty, Holds]
  | append_singleton entries last ih =>
    have unfolded : ofEntries (entries ++ [last]) = (ofEntries entries).put last.1 last.2 := by
      simp [ofEntries]
    rw [unfolded, holds_concat, ← ih]
    exact mem_putEntry last.1 last.2 entry _ (ofEntries entries).unique

end ChartManifests.TextMap

namespace ChartManifests.Config

def WritesPair (pair : Value × Value) (text : Text × Text) : Prop :=
  pair.1.written? = some text.1 ∧ pair.2.written? = some text.2

theorem writtenPairs_iff {pairs : Entries} {written : List (Text × Text)} :
    writtenPairs pairs = some written ↔ List.Forall₂ WritesPair pairs written := by
  induction pairs generalizing written with
  | nil => simp [writtenPairs, eq_comm]
  | cons pair rest ih =>
    obtain ⟨key, value⟩ := pair
    simp only [writtenPairs, Option.bind_eq_bind, Option.bind_eq_some_iff, Option.some.injEq,
      List.forall₂_cons_left_iff, ih]
    constructor
    · rintro ⟨name, named, content, held, others, follows, rfl⟩
      exact ⟨(name, content), others, ⟨named, held⟩, follows, rfl⟩
    · rintro ⟨text, others, ⟨named, held⟩, follows, rfl⟩
      exact ⟨text.1, named, text.2, held, others, follows, rfl⟩

theorem exists_writtenPairs {pairs : Entries}
    (legible : ∀ pair ∈ pairs, pair.1.written?.isSome = true ∧ pair.2.written?.isSome = true) :
    ∃ written, writtenPairs pairs = some written := by
  induction pairs with
  | nil => exact ⟨[], rfl⟩
  | cons pair rest ih =>
    obtain ⟨others, follows⟩ := ih fun other present => legible other (by simp [present])
    obtain ⟨named, held⟩ := legible pair (by simp)
    obtain ⟨name, named⟩ := Option.isSome_iff_exists.mp named
    obtain ⟨content, held⟩ := Option.isSome_iff_exists.mp held
    exact ⟨(name, content) :: others, by simp [writtenPairs, named, held, follows]⟩

end ChartManifests.Config
