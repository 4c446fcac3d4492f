import ChartManifests.Config.Document
import ChartManifests.Proofs.Result
/-!
What is found under a key, and what renaming the alternate spellings does to it. Two spellings of
one option are refused, so that nothing is lost when one of them is taken for the other.
-/

namespace ChartManifests

theorem Value.text?_eq_some {value : Value} {content : Text} :
    value.text? = some content ↔ value = .text content := by
  cases value <;> simp [Value.text?]

namespace Entries

@[simp] theorem lookup_nil (key : Text) : lookup [] key = none := rfl

theorem lookup_cons (entry : Value × Value) (rest : Entries) (key : Text) :
    lookup (entry :: rest) key =
      if entry.1.text? = some key then some entry.2 else lookup rest key := by
  unfold lookup
  by_cases same : entry.1.text? = some key <;> simp [same]

theorem lookup_append (first second : Entries) (key : Text) :
    lookup (first ++ second) key = (lookup first key).or (lookup second key) := by
  unfold lookup
  rw [List.find?_append]
  cases first.find? fun entry => decide (entry.1.text? = some key) <;> simp

theorem lookup_without (entries : Entries) (other key : Text) :
    lookup (entries.without other) key =
      if key = other then none else lookup entries key := by
  unfold without
  induction entries with
  | nil => simp
  | cons entry rest ih =>
    by_cases dropped : entry.1.text? = some other
    · rw [List.filter_cons_of_neg (by simp [dropped]), ih, lookup_cons]
      by_cases same : key = other
      · simp [same]
      · simp [same, dropped, Ne.symm same]
    · rw [List.filter_cons_of_pos (by simp [dropped]), lookup_cons, lookup_cons, ih]
      by_cases named : entry.1.text? = some key
      · have apart : key ≠ other := by
          rintro rfl
          exact dropped named
        simp [named, apart]
      · simp [named]

theorem mem_of_lookup {entries : Entries} {key : Text} {value : Value}
    (found : lookup entries key = some value) : (.text key, value) ∈ entries := by
  induction entries with
  | nil => cases found
  | cons entry rest ih =>
    rw [lookup_cons] at found
    split at found
    next same =>
      cases found
      have whole : entry = (.text key, entry.2) :=
        Prod.ext (Value.text?_eq_some.mp same) rfl
      rw [← whole]
      exact List.mem_cons_self
    next => exact List.mem_cons_of_mem _ (ih found)

theorem mem_keys_iff {entries : Entries} {key : Text} :
    .text key ∈ entries.map Prod.fst ↔ entries.has key = true := by
  unfold has
  induction entries with
  | nil => simp
  | cons entry rest ih =>
    rw [lookup_cons, List.map_cons, List.mem_cons, ih, eq_comm, ← Value.text?_eq_some]
    by_cases same : entry.1.text? = some key <;> simp [same]

def respelled (entries : Entries) (alternate key : Text) : Entries :=
  match entries.lookup alternate with
  | none => entries
  | some value => entries.without alternate ++ [(.text key, value)]

theorem lookup_respelled {entries : Entries} {alternate key : Text} (apart : alternate ≠ key)
    (once : ¬ (entries.has alternate = true ∧ entries.has key = true)) (name : Text) :
    lookup (entries.respelled alternate key) name =
      if name = alternate then none
      else if name = key then (entries.lookup key).or (entries.lookup alternate)
      else entries.lookup name := by
  unfold respelled
  cases found : entries.lookup alternate with
  | none =>
    by_cases same : name = alternate
    · simp [same, found]
    · by_cases own : name = key <;> simp [same, own, apart.symm]
  | some value =>
    have absent : entries.lookup key = none := by
      simpa [has, found] using once
    simp only [lookup_append, lookup_without, lookup_cons, lookup_nil, Value.text?,
      Option.some.injEq]
    by_cases same : name = alternate
    · simp [same, apart.symm]
    · by_cases own : name = key
      · simp [own, apart.symm, absent]
      · simp [same, own, Ne.symm own]

theorem mem_keys_respelled {entries : Entries} {alternate key : Text} {name : Value} :
    name ∈ (entries.respelled alternate key).map Prod.fst ↔
      (name ∈ entries.map Prod.fst ∧ name ≠ .text alternate) ∨
      (entries.has alternate = true ∧ name = .text key) := by
  unfold respelled
  cases found : entries.lookup alternate with
  | none =>
    have absent : entries.has alternate = false := by simp [has, found]
    have proper : name ∈ entries.map Prod.fst → name ≠ .text alternate := by
      rintro present rfl
      rw [mem_keys_iff, absent] at present
      cases present
    simp only [absent, Bool.false_eq_true, false_and, or_false]
    exact ⟨fun present => ⟨present, proper present⟩, And.left⟩
  | some value =>
    have present : entries.has alternate = true := by simp [has, found]
    simp only [present, true_and, List.map_append, List.map_cons, List.map_nil, List.mem_append,
      List.mem_singleton, without, List.mem_map, List.mem_filter, decide_eq_true_eq, ne_eq,
      Value.text?_eq_some]
    constructor
    · rintro (⟨entry, ⟨there, proper⟩, rfl⟩ | own)
      · exact Or.inl ⟨⟨entry, there, rfl⟩, proper⟩
      · exact Or.inr own
    · rintro (⟨⟨entry, there, rfl⟩, proper⟩ | own)
      · exact Or.inl ⟨entry, ⟨there, proper⟩, rfl⟩
      · exact Or.inr own

theorem forall_keys_respelled {entries : Entries} {alternate key : Text} {known : Value → Prop}
    (own : known (.text key)) :
    (∀ name ∈ (entries.respelled alternate key).map Prod.fst, known name) ↔
      ∀ name ∈ entries.map Prod.fst, name = .text alternate ∨ known name := by
  simp only [mem_keys_respelled]
  constructor
  · intro all name present
    by_cases other : name = .text alternate
    · exact Or.inl other
    · exact Or.inr (all name (Or.inl ⟨present, other⟩))
  · rintro all name (⟨present, proper⟩ | ⟨-, rfl⟩)
    · exact (all name present).resolve_left proper
    · exact own

def spelled (entries : Entries) : Entries :=
  (entries.respelled "chartRepoURL" "chartRepoUrl").respelled "chartArgs" "extraArgs"

def SpelledOnce (entries : Entries) : Prop :=
  ∀ spelling ∈ Config.alternates,
    ¬ (entries.has spelling.1 = true ∧ entries.has spelling.2 = true)

theorem spelledOnce_iff {entries : Entries} :
    entries.SpelledOnce ↔
      ¬ (entries.has "chartRepoURL" = true ∧ entries.has "chartRepoUrl" = true) ∧
      ¬ ((entries.respelled "chartRepoURL" "chartRepoUrl").has "chartArgs" = true ∧
        (entries.respelled "chartRepoURL" "chartRepoUrl").has "extraArgs" = true) := by
  simp only [SpelledOnce, Config.alternates, List.forall_mem_cons]
  refine and_congr_right fun once => ?_
  have same : ∀ name : Text, name ≠ "chartRepoURL" → name ≠ "chartRepoUrl" →
      (entries.respelled "chartRepoURL" "chartRepoUrl").has name = entries.has name := by
    intro name notAlternate notOwn
    unfold has
    rw [lookup_respelled (by decide) once, if_neg notAlternate, if_neg notOwn]
  rw [same _ (by decide) (by decide), same _ (by decide) (by decide)]
  exact and_iff_left nofun

/-- The value that a document gives to an option, under the option's own key or under the alternate
spelling of it. -/
def given (entries : Entries) (key : Text) : Option Value :=
  (entries.lookup key).or
    ((Config.alternates.find? fun spelling => Text.ofString spelling.2 = key).bind
      fun spelling => entries.lookup spelling.1)

theorem mem_of_given {entries : Entries} {key : Text} {value : Value}
    (found : entries.given key = some value) : ∃ name : Text, (.text name, value) ∈ entries := by
  rcases Option.or_eq_some_iff.mp found with own | ⟨-, other⟩
  · exact ⟨key, mem_of_lookup own⟩
  · obtain ⟨spelling, -, alternate⟩ := Option.bind_eq_some_iff.mp other
    exact ⟨spelling.1, mem_of_lookup alternate⟩

theorem lookup_spelled {entries : Entries} (once : entries.SpelledOnce) {key : Text}
    (notUrl : key ≠ "chartRepoURL") (notArgs : key ≠ "chartArgs") :
    entries.spelled.lookup key = entries.given key := by
  obtain ⟨first, next⟩ := spelledOnce_iff.mp once
  rw [spelled, lookup_respelled (by decide) next, if_neg notArgs]
  have apart : Text.ofString "chartRepoURL" ≠ "chartRepoUrl" := by decide
  simp only [lookup_respelled apart first, given, Config.alternates]
  by_cases url : key = "chartRepoUrl"
  · subst url
    rfl
  · by_cases extra : key = "extraArgs"
    · subst extra
      rfl
    · simp [url, extra, notUrl, Ne.symm url, Ne.symm extra]

theorem forall_keys_spelled {entries : Entries} {known : Value → Prop}
    (url : known (.text "chartRepoUrl")) (extra : known (.text "extraArgs")) :
    (∀ name ∈ entries.spelled.map Prod.fst, known name) ↔
      ∀ name ∈ entries.map Prod.fst,
        name = .text "chartRepoURL" ∨ name = .text "chartArgs" ∨ known name := by
  rw [spelled, forall_keys_respelled extra, forall_keys_respelled (Or.inr url)]

end Entries

namespace Config

open Entries

theorem rename_iff {entries renamed : Entries} {alternate key : String} :
    rename entries alternate key = .ok renamed ↔
      ¬ (entries.has alternate = true ∧ entries.has key = true) ∧
      entries.respelled alternate key = renamed := by
  unfold rename respelled
  cases found : entries.lookup alternate with
  | none => simp [has, found]
  | some value =>
    have present : entries.has alternate = true := by simp [has, found]
    by_cases twice : entries.has key = true
    · simp [present, twice]
    · simp [twice]

theorem renameAll_iff {entries renamed : Entries} :
    renameAll entries = .ok renamed ↔ entries.SpelledOnce ∧ entries.spelled = renamed := by
  have twoSteps : renameAll entries = .ok renamed ↔
      ∃ first, rename entries "chartRepoURL" "chartRepoUrl" = .ok first ∧
        rename first "chartArgs" "extraArgs" = .ok renamed := by
    simp only [renameAll, alternates, List.foldlM_cons, List.foldlM_nil, bind_eq_ok, pure,
      Except.pure, Except.ok.injEq, exists_eq_right]
  rw [twoSteps, spelledOnce_iff]
  simp only [rename_iff, spelled]
  constructor
  · rintro ⟨first, ⟨once, rfl⟩, onceMore, rfl⟩
    exact ⟨⟨once, onceMore⟩, rfl⟩
  · rintro ⟨⟨once, onceMore⟩, rfl⟩
    exact ⟨_, ⟨once, rfl⟩, onceMore, rfl⟩

end Config

end ChartManifests
