import ChartManifests.Proofs.Config.Grammar
import ChartManifests.Proofs.Resolve
/-!
Options that are left open. A document may leave an option open in three ways: with an empty text or
an empty list, with a null, or by saying nothing. It is read as a configuration in each of them, and
the configurations differ in nothing that is not empty. Only the name of the chart may not be left
open, in whichever way.
-/

namespace ChartManifests

namespace Entries

/-- The keys under which an option can be left open, other spellings included. -/
def optionKeys : List String :=
  Setting.all.map Setting.key ++ "extraArgs" :: Config.alternates.map Prod.fst

inductive IsBlank : Value → Prop
  | null : IsBlank .null
  | text : IsBlank (.text [])
  | list {anchor : Option Nat} : IsBlank (.list anchor [])

/-- What was blank is a null or gone; anything else is what it was. -/
def Blanked (before after : Option Value) : Prop :=
  after = before ∨
    (∃ value, before = some value ∧ IsBlank value) ∧ (after = none ∨ after = some .null)

structure SameBeside (keys : List String) (entries changed : Entries) : Prop where
  lookup : ∀ key : Text, (∀ own ∈ keys, key ≠ own) → changed.lookup key = entries.lookup key
  names : ∀ name ∈ changed.map Prod.fst,
    name ∈ entries.map Prod.fst ∨ ∃ own ∈ keys, name = .text own

/-- Entries in which some of the options that were blank have become nulls or are gone, each of them
independently of the others. -/
structure Reopens (entries changed : Entries) : Prop where
  options : ∀ key ∈ optionKeys, Blanked (entries.lookup key) (changed.lookup key)
  others : SameBeside optionKeys entries changed

inductive Reopening
  | kept
  | nulled
  | removed

def reopen (way : Text → Reopening) (entry : Value × Value) : Option (Value × Value) :=
  match (entry.1.text?.map way).getD .kept with
  | .kept => some entry
  | .nulled => some (entry.1, .null)
  | .removed => none

/-- Makes nulls of options and takes options away, as is said for the key of each. -/
def reopened (entries : Entries) (way : Text → Reopening) : Entries :=
  entries.filterMap (reopen way)

theorem reopen_key {way : Text → Reopening} {entry next : Value × Value}
    (stays : reopen way entry = some next) : next.1 = entry.1 := by
  unfold reopen at stays
  split at stays <;> cases stays <;> rfl

theorem lookup_reopened (entries : Entries) (way : Text → Reopening) (key : Text) :
    (entries.reopened way).lookup key =
      match way key with
      | .kept => entries.lookup key
      | .nulled => (entries.lookup key).map fun _ => .null
      | .removed => none := by
  induction entries with
  | nil => cases way key <;> rfl
  | cons entry rest ih =>
    rw [reopened, List.filterMap_cons, ← reopened, lookup_cons]
    by_cases own : entry.1.text? = some key
    · have made : (entry.1.text?.map way).getD .kept = way key := by rw [own]; rfl
      cases decided : way key with
      | kept => simp [reopen, decided, lookup_cons, own]
      | nulled => simp [reopen, decided, lookup_cons, own]
      | removed => simpa [reopen, made, decided] using ih
    · rw [if_neg own, ← ih]
      cases stays : reopen way entry with
      | none => rfl
      | some next => rw [lookup_cons, reopen_key stays, if_neg own]

theorem reopens_reopened {entries : Entries} {way : Text → Reopening}
    (blank : ∀ key, way key = .kept ∨ (∃ option ∈ optionKeys, key = option) ∧
      ∃ value, entries.lookup key = some value ∧ IsBlank value) :
    Reopens entries (entries.reopened way) where
  options key _ := by
    rw [lookup_reopened]
    obtain kept | ⟨-, value, there, isBlank⟩ := blank key
    · rw [kept]
      exact Or.inl rfl
    · cases way key with
      | kept => exact Or.inl rfl
      | nulled => exact Or.inr ⟨⟨value, there, isBlank⟩, Or.inr (by rw [there]; rfl)⟩
      | removed => exact Or.inr ⟨⟨value, there, isBlank⟩, Or.inl rfl⟩
  others := {
    lookup := by
      intro key apart
      rw [lookup_reopened]
      obtain kept | ⟨⟨option, known, same⟩, -⟩ := blank key
      · rw [kept]
      · exact absurd same (apart option known)
    names := by
      intro name present
      obtain ⟨next, there, rfl⟩ := List.mem_map.mp present
      obtain ⟨entry, before, stays⟩ := List.mem_filterMap.mp there
      exact Or.inl (List.mem_map.mpr ⟨entry, before, (reopen_key stays).symm⟩) }

theorem Blanked.or {first second after next : Option Value} (own : Blanked first after)
    (other : Blanked second next) (once : ¬ (first.isSome = true ∧ second.isSome = true)) :
    Blanked (first.or second) (after.or next) := by
  cases first with
  | none =>
    have absent : after = none := own.resolve_right fun blanked => nomatch blanked.1
    rw [absent, Option.none_or, Option.none_or]
    exact other
  | some value =>
    have gone : second = none := by simpa using once
    subst gone
    have absent : next = none := other.resolve_right fun blanked => nomatch blanked.1
    rw [absent, Option.or_none, Option.or_none]
    exact own

theorem given_single {entries : Entries} {key : Text}
    (single : ∀ spelling ∈ Config.alternates, Text.ofString spelling.2 ≠ key) :
    entries.given key = entries.lookup key := by
  have alone : (Config.alternates.find? fun spelling => Text.ofString spelling.2 = key) = none := by
    rw [List.find?_eq_none]
    intro spelling known
    simpa using single spelling known
  rw [Entries.given, alone, Option.bind_none, Option.or_none]

namespace SameBeside

variable {keys : List String} {entries changed : Entries}

theorem given (beside : SameBeside keys entries changed) {key : Text}
    (apart : ∀ own ∈ keys, key ≠ own)
    (spelled : ∀ spelling ∈ Config.alternates, Text.ofString spelling.2 = key →
      ∀ own ∈ keys, Text.ofString spelling.1 ≠ own) :
    changed.given key = entries.given key := by
  unfold Entries.given
  rw [beside.lookup key apart]
  cases found : Config.alternates.find? fun spelling => Text.ofString spelling.2 = key with
  | none => rfl
  | some spelling =>
    have named : Text.ofString spelling.2 = key := by simpa using List.find?_some found
    have same := beside.lookup spelling.1
      (spelled spelling (List.mem_of_find?_eq_some found) named)
    rw [Option.bind_some, Option.bind_some, same]

theorem known (beside : SameBeside keys entries changed)
    (own : ∀ key ∈ keys, key ∈ Config.knownKeys ++ Config.alternates.map Prod.fst)
    (before : ∀ name ∈ entries.map Prod.fst,
      ∃ key ∈ Config.knownKeys ++ Config.alternates.map Prod.fst, name = .text key) :
    ∀ name ∈ changed.map Prod.fst,
      ∃ key ∈ Config.knownKeys ++ Config.alternates.map Prod.fst, name = .text key := by
  intro name present
  obtain there | ⟨key, new, rfl⟩ := beside.names name present
  · exact before name there
  · exact ⟨key, own key new, rfl⟩

end SameBeside

namespace Reopens

variable {entries changed : Entries}

theorem lookup (reopens : Reopens entries changed) (key : Text) :
    Blanked (entries.lookup key) (changed.lookup key) := by
  by_cases isOption : ∃ option ∈ optionKeys, key = option
  · obtain ⟨option, known, rfl⟩ := isOption
    exact reopens.options option known
  · exact Or.inl (reopens.others.lookup key fun option known same => isOption ⟨option, known, same⟩)

theorem spelledOnce (reopens : Reopens entries changed) (once : entries.SpelledOnce) :
    changed.SpelledOnce := by
  have had : ∀ key, changed.has key = true → entries.has key = true := by
    intro key present
    obtain same | ⟨⟨value, there, _⟩, -⟩ := reopens.lookup key
    · rwa [has, ← same]
    · rw [has, there, Option.isSome_some]
  rintro spelling known ⟨alternate, own⟩
  exact once spelling known ⟨had _ alternate, had _ own⟩

theorem given (reopens : Reopens entries changed) (once : entries.SpelledOnce) (key : Text) :
    Blanked (entries.given key) (changed.given key) := by
  unfold Entries.given
  cases found : Config.alternates.find? fun spelling => Text.ofString spelling.2 = key with
  | none => simpa using reopens.lookup key
  | some spelling =>
    have named : Text.ofString spelling.2 = key := by simpa using List.find?_some found
    refine (reopens.lookup key).or (reopens.lookup spelling.1) ?_
    rintro ⟨own, alternate⟩
    exact once spelling (List.mem_of_find?_eq_some found) ⟨alternate, named ▸ own⟩

end Reopens

end Entries

namespace Config

open Entries

def withSettings (config : Config) (setting : Setting → Option Text) : Config :=
  { config with
    chartName := setting .chartName
    chartVersion := setting .chartVersion
    chartRepoName := setting .chartRepoName
    chartRepoUrl := setting .chartRepoUrl
    chartHome := setting .chartHome
    releaseName := setting .releaseName
    releaseNamespace := setting .releaseNamespace
    values := setting .values
    helmBin := setting .helmBin
    helmHome := setting .helmHome }

theorem ofEntries_changed {entries changed : Entries} {config : Config} {keys : List String}
    {setting : Setting → Option Text} {words : Option (List Text)}
    (accepted : ofEntries entries = .ok config) (beside : SameBeside keys entries changed)
    (options : ∀ key ∈ keys, key ∈ optionKeys) (once : changed.SpelledOnce)
    (settings : ∀ option : Setting, Means (fun value content => value = .text content)
      (changed.given option.key) (setting option))
    (extraArgs : Means Lists (changed.given "extraArgs") words) :
    ofEntries changed = .ok { config.withSettings setting with extraArgs := words } := by
  obtain ⟨renamed, spells, -, -, keyed, metadata, apiVersion, kind⟩ := ofEntries_iff.mp accepted
  obtain ⟨before, rfl⟩ := renameAll_iff.mp spells
  have known := beside.known
    (fun key own => (by decide : ∀ key ∈ optionKeys, key ∈ knownKeys ++ alternates.map Prod.fst)
      key (options key own)) (knownKeys_spelled.mp (checkKeys_iff.mp keyed))
  have same : ∀ key ∈ ["metadata", "apiVersion", "kind"],
      changed.spelled.lookup (Text.ofString key) = entries.spelled.lookup (Text.ofString key) := by
    intro key present
    have isKnown : key ∈ knownKeys ∧ (∀ own ∈ optionKeys, Text.ofString key ≠ own) ∧
        ∀ spelling ∈ alternates, Text.ofString spelling.2 ≠ key := by
      simp only [List.mem_cons, List.not_mem_nil, or_false] at present
      obtain rfl | rfl | rfl := present <;> decide
    rw [lookup_known once key isKnown.1, lookup_known before key isKnown.1]
    exact beside.given (fun own present => isKnown.2.1 own (options own present))
      fun spelling present other => absurd other (isKnown.2.2 spelling present)
  refine ofEntries_iff.mpr ⟨_, renameAll_iff.mpr ⟨once, rfl⟩, fun option => ?_, ?_,
    checkKeys_iff.mpr (knownKeys_spelled.mpr known), ?_, ?_, ?_⟩
  · have held : Config.setting { config.withSettings setting with extraArgs := words } option =
        setting option := by
      cases option <;> rfl
    rw [held, readSetting_iff, lookup_setting once]
    exact settings option
  · rw [readExtraArgs_iff, lookup_known once "extraArgs" (by decide)]
    exact extraArgs
  · refine Eq.trans ?_ metadata
    simp only [readMetadata, same "metadata" (by decide)]
  · refine Eq.trans ?_ apiVersion
    simp only [readWritten, same "apiVersion" (by decide)]
  · refine Eq.trans ?_ kind
    simp only [readWritten, same "kind" (by decide)]

structure Alike (left right : Config) : Prop where
  settings : ∀ option, nonEmpty? (left.setting option) = nonEmpty? (right.setting option)
  extraArgs : left.extraArgs.getD [] = right.extraArgs.getD []

theorem means_blanked {α : Type} {kind : Value → α → Prop} {before after : Option Value}
    {result : Option α} (meant : Means kind before result) (blanked : Blanked before after) :
    ∃ left, Means kind after left ∧ (left = result ∨ left = none ∧
      ∀ content, result = some content → ∃ value, IsBlank value ∧ kind value content) := by
  obtain rfl | ⟨⟨value, rfl, blank⟩, isOpen⟩ := blanked
  · exact ⟨result, meant, Or.inl rfl⟩
  · refine ⟨none, ?_, Or.inr ⟨rfl, ?_⟩⟩
    · obtain rfl | rfl := isOpen
      · exact .absent
      · exact .null
    · rintro content rfl
      cases meant with
      | given _ meant => exact ⟨value, blank, meant⟩

theorem setting_blanked {before after : Option Value} {option : Option Text}
    (meant : Means (fun value content => value = .text content) before option)
    (blanked : Blanked before after) :
    ∃ left, Means (fun value content => value = .text content) after left ∧
      nonEmpty? option = nonEmpty? left := by
  obtain ⟨left, means, rfl | ⟨rfl, blank⟩⟩ := means_blanked meant blanked
  · exact ⟨left, means, rfl⟩
  · refine ⟨none, means, ?_⟩
    cases option with
    | none => rfl
    | some content =>
      obtain ⟨value, isBlank, rfl⟩ := blank content rfl
      cases isBlank
      rfl

theorem extraArgs_blanked {before after : Option Value} {words : Option (List Text)}
    (meant : Means Lists before words) (blanked : Blanked before after) :
    ∃ left, Means Lists after left ∧ words.getD [] = left.getD [] := by
  obtain ⟨left, means, rfl | ⟨rfl, blank⟩⟩ := means_blanked meant blanked
  · exact ⟨left, means, rfl⟩
  · refine ⟨none, means, ?_⟩
    cases words with
    | none => rfl
    | some words =>
      obtain ⟨value, isBlank, anchor, rfl⟩ := blank words rfl
      cases words with
      | nil => rfl
      | cons => cases isBlank

theorem exists_alike {entries changed : Entries} {config : Config}
    (accepted : ofEntries entries = .ok config) (reopens : Reopens entries changed) :
    ∃ other, ofEntries changed = .ok other ∧ config.Alike other := by
  obtain ⟨grammar, meaning⟩ := ofEntries_means accepted
  have settings := fun option => setting_blanked (meaning.settings option)
    (reopens.given grammar.once (Setting.key option))
  choose setting settings same using settings
  obtain ⟨words, extraArgs, sameWords⟩ :=
    extraArgs_blanked meaning.extraArgs (reopens.given grammar.once "extraArgs")
  refine ⟨_, ofEntries_changed accepted reopens.others (fun _ => id)
    (reopens.spelledOnce grammar.once) settings extraArgs, ?_, sameWords⟩
  intro option
  rw [same option]
  cases option <;> rfl

theorem exists_nameless {entries changed : Entries} {config : Config}
    (accepted : ofEntries entries = .ok config) (beside : SameBeside ["chartName"] entries changed)
    (isOpen : changed.lookup "chartName" ∈ [none, some .null, some (.text [])]) :
    ∃ other, ofEntries changed = .ok other ∧ nonEmpty? other.chartName = none := by
  obtain ⟨grammar, meaning⟩ := ofEntries_means accepted
  have given : changed.given "chartName" = changed.lookup "chartName" := given_single (by decide)
  have apart : ∀ spelling ∈ alternates, ∀ own ∈ ["chartName"],
      Text.ofString spelling.1 ≠ Text.ofString own ∧
        Text.ofString spelling.2 ≠ Text.ofString own := by
    decide
  have once : changed.SpelledOnce := by
    intro spelling known
    have alternate := beside.lookup spelling.1 fun own named => (apart spelling known own named).1
    have same := beside.lookup spelling.2 fun own named => (apart spelling known own named).2
    simpa only [has, alternate, same] using grammar.once spelling known
  obtain ⟨name, named, nothing⟩ : ∃ name,
      Means (fun value content => value = .text content) (changed.lookup "chartName") name ∧
        nonEmpty? name = none := by
    simp only [List.mem_cons, List.not_mem_nil, or_false] at isOpen
    obtain absent | null | empty := isOpen
    · exact ⟨none, absent ▸ .absent, rfl⟩
    · exact ⟨none, null ▸ .null, rfl⟩
    · exact ⟨some [], empty ▸ .given Value.noConfusion rfl, rfl⟩
  have others : ∀ key : Text, key ≠ "chartName" → changed.given key = entries.given key :=
    fun key different => beside.given (by simpa using different)
      fun spelling known _ own named => (apart spelling known own named).1
  have settings : ∀ option : Setting, Means (fun value content => value = .text content)
      (changed.given option.key) (if option = .chartName then name else config.setting option) := by
    intro option
    by_cases isName : option = .chartName
    · rw [if_pos isName, isName]
      exact given ▸ named
    · have different : Text.ofString option.key ≠ "chartName" := by
        revert isName
        cases option <;> decide
      rw [if_neg isName, others option.key different]
      exact meaning.settings option
  have extraArgs := meaning.extraArgs
  rw [← others "extraArgs" (by decide)] at extraArgs
  exact ⟨_, ofEntries_changed accepted beside (by decide) once settings extraArgs, nothing⟩

end Config

end ChartManifests
