import ChartManifests.Proofs.Config.Entries
import ChartManifests.Proofs.Config.Labels
/-!
Which documents are configurations, and what they mean. The grammar speaks about what is found
under a key and nothing else: neither the order of the entries nor the order of the checks matters.
-/

namespace ChartManifests

inductive Value.Contains : Value → Value → Prop
  | itself {value : Value} : Contains value value
  | inList {anchor : Option Nat} {items : List Value} {item part : Value} :
      item ∈ items → Contains item part → Contains (.list anchor items) part
  | inTuple {items : List Value} {item part : Value} :
      item ∈ items → Contains item part → Contains (.tuple items) part
  | inSet {items : List Value} {item part : Value} :
      item ∈ items → Contains item part → Contains (.set items) part
  | inKey {anchor : Option Nat} {entries : Entries} {entry : Value × Value} {part : Value} :
      entry ∈ entries → Contains entry.1 part → Contains (.map anchor entries) part
  | inEntry {anchor : Option Nat} {entries : Entries} {entry : Value × Value} {part : Value} :
      entry ∈ entries → Contains entry.2 part → Contains (.map anchor entries) part

def Value.Legible (value : Value) : Prop :=
  ∀ part, value.Contains part → part.written?.isSome = true

theorem Value.Legible.member {anchor : Option Nat} {entries : Entries} {entry : Value × Value}
    (legible : Legible (.map anchor entries)) (present : entry ∈ entries) :
    entry.1.Legible ∧ entry.2.Legible :=
  ⟨fun part inside => legible part (.inKey present inside),
    fun part inside => legible part (.inEntry present inside)⟩

theorem Value.legible_map {anchor : Option Nat} {entries : Entries}
    (written : (Value.map anchor entries).written?.isSome = true)
    (members : ∀ entry ∈ entries, entry.1.Legible ∧ entry.2.Legible) :
    Legible (.map anchor entries) := by
  intro part inside
  cases inside with
  | itself => exact written
  | inKey present inside => exact (members _ present).1 part inside
  | inEntry present inside => exact (members _ present).2 part inside

def Value.entries? : Value → Option Entries
  | .null => some []
  | .map _ entries => some entries
  | _ => none

def Admits (kind : Value → Prop) (given : Option Value) : Prop :=
  ∀ value, given = some value → value = .null ∨ kind value

inductive Means {α : Type} (kind : Value → α → Prop) : Option Value → Option α → Prop
  | absent : Means kind none none
  | null : Means kind (some .null) none
  | given {value : Value} {content : α} :
      value ≠ .null → kind value content → Means kind (some value) (some content)

section Means

variable {α : Type} (kind : Value → α → Prop) {result : Option α}

@[simp] theorem means_absent : Means kind none result ↔ result = none := by
  constructor
  · rintro ⟨⟩
    rfl
  · rintro rfl
    exact .absent

@[simp] theorem means_null : Means kind (some .null) result ↔ result = none := by
  constructor
  · rintro (_ | _ | ⟨proper, _⟩)
    · rfl
    · exact absurd rfl proper
  · rintro rfl
    exact .null

theorem means_given {value : Value} (proper : value ≠ .null) :
    Means kind (some value) result ↔ ∃ content, result = some content ∧ kind value content := by
  constructor
  · rintro (_ | _ | ⟨_, meant⟩)
    · exact absurd rfl proper
    · exact ⟨_, rfl, meant⟩
  · rintro ⟨content, rfl, meant⟩
    exact .given proper meant

theorem admits_iff {given : Option Value} :
    Admits (fun value => ∃ content, kind value content) given ↔
      ∃ result, Means kind given result := by
  cases given with
  | none => simp [Admits]
  | some value =>
    by_cases nothing : value = .null
    · simp [Admits, nothing]
    · simp only [Admits, Option.some.injEq, forall_eq', nothing, false_or, means_given kind nothing]
      constructor
      · rintro ⟨content, meant⟩
        exact ⟨some content, content, rfl, meant⟩
      · rintro ⟨_, content, -, meant⟩
        exact ⟨content, meant⟩

end Means

namespace Config

open Entries

def IsMapping (value : Value) : Prop := ∃ anchor pairs, value = .map anchor pairs

/-- A mapping with the keys of an identity, whose labels and annotations are mappings. -/
def IsIdentity (value : Value) : Prop :=
  ∃ (anchor : Option Nat) (members : Entries), value = .map anchor members ∧
    (∀ name ∈ members.map Prod.fst, ∃ key ∈ metadataKeys, name = .text key) ∧
    Admits IsMapping (members.lookup "labels") ∧ Admits IsMapping (members.lookup "annotations")

def Lists (value : Value) (words : List Text) : Prop :=
  ∃ anchor, value = .list anchor (words.map .text)

def Writes (value : Value) (content : Text) : Prop := value.written? = some content

/-- Labels or annotations: every key and every value is written as a text, and the last text of a
name holds. -/
def Labels (value : Value) (map : TextMap) : Prop :=
  ∃ anchor pairs written, value = .map anchor pairs ∧ List.Forall₂ WritesPair pairs written ∧
    ∀ entry, entry ∈ map.entries ↔ TextMap.Holds written entry

def Identifies (value : Value) (identity : ObjectMeta) : Prop :=
  ∃ (anchor : Option Nat) (members : Entries), value = .map anchor members ∧
    Means Writes (members.lookup "name") identity.name ∧
    Means Writes (members.lookup "namespace") identity.space ∧
    Means Labels (members.lookup "labels") identity.labels ∧
    Means Labels (members.lookup "annotations") identity.annotations

structure Grammar (entries : Entries) : Prop where
  once : entries.SpelledOnce
  known : ∀ name ∈ entries.map Prod.fst,
    ∃ key ∈ knownKeys ++ alternates.map Prod.fst, name = .text key
  settings : ∀ option : Setting,
    Admits (fun value => ∃ content, value = .text content) (entries.given option.key)
  extraArgs : Admits (fun value => ∃ words, Lists value words) (entries.given "extraArgs")
  metadata : Admits IsIdentity (entries.given "metadata")

structure Meaning (entries : Entries) (config : Config) : Prop where
  settings : ∀ option : Setting,
    Means (fun value content => value = .text content) (entries.given option.key)
      (config.setting option)
  extraArgs : Means Lists (entries.given "extraArgs") config.extraArgs
  metadata : Means Identifies (entries.given "metadata") config.metadata
  apiVersion : Means Writes (entries.given "apiVersion") config.apiVersion
  kind : Means Writes (entries.given "kind") config.kind

example : knownKeys = ["chartName", "chartVersion", "chartRepoName", "chartRepoUrl", "chartHome",
    "releaseName", "releaseNamespace", "values", "helmBin", "helmHome", "extraArgs", "metadata",
    "apiVersion", "kind"] := rfl

theorem readSetting_iff {entries : Entries} {option : Setting} {result : Option Text} :
    readSetting entries option = .ok result ↔
      Means (fun value content => value = .text content) (entries.lookup option.key) result := by
  unfold readSetting
  cases entries.lookup option.key with
  | none => simp [eq_comm]
  | some value => cases value <;> simp [means_given, eq_comm]

theorem mapM_text?_iff {items : List Value} {words : List Text} :
    items.mapM Value.text? = some words ↔ items = words.map .text := by
  induction items generalizing words with
  | nil => cases words <;> simp
  | cons item rest ih =>
    simp only [List.mapM_cons, Option.bind_eq_bind, Option.bind_eq_some_iff, Option.pure_def,
      Option.some.injEq, ih, Value.text?_eq_some]
    constructor
    · rintro ⟨word, rfl, others, rfl, rfl⟩
      rfl
    · intro split
      cases words with
      | nil => cases split
      | cons word others =>
        simp only [List.map_cons, List.cons.injEq] at split
        exact ⟨word, split.1, others, split.2, rfl⟩

theorem readExtraArgs_iff {entries : Entries} {result : Option (List Text)} :
    readExtraArgs entries = .ok result ↔ Means Lists (entries.lookup "extraArgs") result := by
  unfold readExtraArgs
  cases entries.lookup "extraArgs" with
  | none => simp [eq_comm]
  | some value =>
    cases value with
    | list anchor items =>
      have proper : Value.list anchor items ≠ .null := nofun
      rw [means_given Lists proper]
      constructor
      · intro accepted
        cases split : items.mapM Value.text? with
        | none => simp [split] at accepted
        | some words =>
          simp only [split, Except.ok.injEq] at accepted
          exact ⟨words, accepted.symm, anchor, congrArg _ (mapM_text?_iff.mp split)⟩
      · rintro ⟨words, rfl, other, same⟩
        cases same
        simp only [mapM_text?_iff.mpr rfl]
    | _ => simp [means_given, eq_comm, Lists]

theorem readWritten_means {entries : Entries} {key : Text} {result : Option Text}
    (accepted : readWritten entries key = .ok result) :
    Means Writes (entries.lookup key) result := by
  unfold readWritten at accepted
  split at accepted
  next absent => cases accepted; simp [absent]
  next null => cases accepted; simp [null]
  next value proper present =>
    split at accepted
    next content written =>
      cases accepted
      exact present ▸ .given proper written
    next => cases accepted

theorem exists_readWritten {entries : Entries} {key : Text}
    (legible : ∀ value, entries.lookup key = some value → value.Legible) :
    ∃ result, readWritten entries key = .ok result := by
  unfold readWritten
  split
  next => exact ⟨none, rfl⟩
  next => exact ⟨none, rfl⟩
  next value _ present =>
    obtain ⟨content, written⟩ := Option.isSome_iff_exists.mp (legible value present value .itself)
    exact ⟨some content, by rw [written]⟩

theorem isTextMap_iff {given : Option Value} : isTextMap given = true ↔ Admits IsMapping given := by
  cases given with
  | none => simp [isTextMap, Admits]
  | some value => cases value <;> simp [isTextMap, Admits, IsMapping]

theorem readTextMap_means {entries : Entries} {key : Text} {result : Option TextMap}
    (mapping : Admits IsMapping (entries.lookup key))
    (accepted : readTextMap entries key = .ok result) :
    Means Labels (entries.lookup key) result := by
  unfold readTextMap at accepted
  split at accepted
  next anchor pairs present =>
    split at accepted
    next written writes =>
      cases accepted
      have labels : Labels (.map anchor pairs) (.ofEntries written) :=
        ⟨anchor, pairs, written, rfl, writtenPairs_iff.mp writes, TextMap.mem_ofEntries written⟩
      exact present ▸ .given nofun labels
    next => cases accepted
  next other =>
    cases accepted
    cases found : entries.lookup key with
    | none => exact .absent
    | some value =>
      obtain rfl | ⟨anchor, pairs, rfl⟩ := mapping value found
      · exact .null
      · exact absurd found (other anchor pairs)

theorem exists_readTextMap {entries : Entries} {key : Text}
    (legible : ∀ value, entries.lookup key = some value → value.Legible) :
    ∃ result, readTextMap entries key = .ok result := by
  unfold readTextMap
  split
  next anchor pairs present =>
    have parts := legible _ present
    obtain ⟨written, writes⟩ := exists_writtenPairs fun pair inside =>
      ⟨(parts.member inside).1 _ .itself, (parts.member inside).2 _ .itself⟩
    exact ⟨some (.ofEntries written), by rw [writes]⟩
  next => exact ⟨none, rfl⟩

theorem isMetadata_iff {members : Entries} :
    isMetadata members = true ↔
      (∀ name ∈ members.map Prod.fst, ∃ key ∈ metadataKeys, name = .text key) ∧
      Admits IsMapping (members.lookup "labels") ∧
      Admits IsMapping (members.lookup "annotations") := by
  have named : ∀ name, isMetadataKey name = true ↔ ∃ key ∈ metadataKeys, name = .text key := by
    intro name
    cases name <;> simp [isMetadataKey, eq_comm]
  simp only [isMetadata, Bool.and_eq_true, List.all_eq_true, List.forall_mem_map, named,
    isTextMap_iff, and_assoc]

theorem metadataOf_iff {members : Entries} {identity : ObjectMeta} :
    metadataOf members = .ok identity ↔
      readWritten members "name" = .ok identity.name ∧
      readWritten members "namespace" = .ok identity.space ∧
      readTextMap members "labels" = .ok identity.labels ∧
      readTextMap members "annotations" = .ok identity.annotations := by
  simp only [metadataOf, bind_eq_ok, Except.ok.injEq]
  constructor
  · rintro ⟨_, name, _, space, _, labels, _, annotations, rfl⟩
    exact ⟨name, space, labels, annotations⟩
  · rintro ⟨name, space, labels, annotations⟩
    exact ⟨_, name, _, space, _, labels, _, annotations, rfl⟩

theorem readMetadata_means {entries : Entries} {result : Option ObjectMeta}
    (accepted : readMetadata entries = .ok result) :
    Admits IsIdentity (entries.lookup "metadata") ∧
      Means Identifies (entries.lookup "metadata") result := by
  unfold readMetadata at accepted
  split at accepted
  next absent => cases accepted; simp [absent, Admits]
  next null => cases accepted; simp [null, Admits]
  next anchor members present =>
    rw [present]
    split at accepted
    next formed =>
      obtain ⟨keys, labelled, annotated⟩ := isMetadata_iff.mp formed
      cases read : metadataOf members with
      | error fault => simp [read, Except.map] at accepted
      | ok identity =>
        simp only [read, Except.map, Except.ok.injEq] at accepted
        obtain ⟨name, space, labels, annotations⟩ := metadataOf_iff.mp read
        have identifies : Identifies (.map anchor members) identity :=
          ⟨anchor, members, rfl, readWritten_means name, readWritten_means space,
            readTextMap_means labelled labels, readTextMap_means annotated annotations⟩
        refine ⟨?_, accepted ▸ .given nofun identifies⟩
        intro value found
        cases found
        exact Or.inr ⟨anchor, members, rfl, keys, labelled, annotated⟩
    next => cases accepted
  next => cases accepted

theorem exists_readMetadata {entries : Entries}
    (legible : ∀ value, entries.lookup "metadata" = some value → value.Legible)
    (admitted : Admits IsIdentity (entries.lookup "metadata")) :
    ∃ result, readMetadata entries = .ok result := by
  unfold readMetadata
  cases found : entries.lookup "metadata" with
  | none => exact ⟨none, rfl⟩
  | some value =>
    obtain rfl | ⟨anchor, members, rfl, keys, labelled, annotated⟩ := admitted value found
    · exact ⟨none, rfl⟩
    · have parts : ∀ key value, members.lookup key = some value → value.Legible :=
        fun key value present => ((legible _ found).member (mem_of_lookup present)).2
      obtain ⟨name, named⟩ := exists_readWritten (parts "name")
      obtain ⟨space, spaced⟩ := exists_readWritten (parts "namespace")
      obtain ⟨labels, labelling⟩ := exists_readTextMap (parts "labels")
      obtain ⟨annotations, annotating⟩ := exists_readTextMap (parts "annotations")
      have read : metadataOf members = .ok ⟨name, space, labels, annotations⟩ :=
        metadataOf_iff.mpr ⟨named, spaced, labelling, annotating⟩
      simp only [isMetadata_iff.mpr ⟨keys, labelled, annotated⟩, if_true, read]
      exact ⟨_, rfl⟩

theorem isKnown_iff {name : Value} : isKnown name = true ↔ ∃ key ∈ knownKeys, name = .text key := by
  cases name <;> simp [isKnown, eq_comm]

theorem checkKeys_iff {entries : Entries} :
    checkKeys entries = .ok () ↔
      ∀ name ∈ entries.map Prod.fst, ∃ key ∈ knownKeys, name = .text key := by
  simp only [← isKnown_iff]
  have none_unknown : (∀ name ∈ entries.map Prod.fst, isKnown name = true) ↔
      (entries.map Prod.fst).filter (fun name => !isKnown name) = [] := by
    simp [List.filter_eq_nil_iff]
  rw [none_unknown]
  unfold checkKeys
  cases (entries.map Prod.fst).filter fun name => !isKnown name with
  | nil => simp
  | cons name rest =>
    simp only [reduceCtorEq, iff_false]
    split <;> simp

theorem ofEntries_iff {entries : Entries} {config : Config} :
    ofEntries entries = .ok config ↔
      ∃ renamed, renameAll entries = .ok renamed ∧
        (∀ option, readSetting renamed option = .ok (config.setting option)) ∧
        readExtraArgs renamed = .ok config.extraArgs ∧ checkKeys renamed = .ok () ∧
        readMetadata renamed = .ok config.metadata ∧
        readWritten renamed "apiVersion" = .ok config.apiVersion ∧
        readWritten renamed "kind" = .ok config.kind := by
  simp only [ofEntries, bind_eq_ok, Except.ok.injEq]
  refine exists_congr fun renamed => and_congr_right fun _ => ?_
  constructor
  · rintro ⟨_, name, _, version, _, repoName, _, repoUrl, _, home, _, release, _, space, _, values,
      _, bin, _, helmHome, _, extraArgs, _, keys, _, metadata, _, apiVersion, _, kind, rfl⟩
    refine ⟨fun option => ?_, extraArgs, keys, metadata, apiVersion, kind⟩
    cases option with
    | chartName => exact name
    | chartVersion => exact version
    | chartRepoName => exact repoName
    | chartRepoUrl => exact repoUrl
    | chartHome => exact home
    | releaseName => exact release
    | releaseNamespace => exact space
    | values => exact values
    | helmBin => exact bin
    | helmHome => exact helmHome
  · rintro ⟨settings, extraArgs, keys, metadata, apiVersion, kind⟩
    exact ⟨_, settings .chartName, _, settings .chartVersion, _, settings .chartRepoName, _,
      settings .chartRepoUrl, _, settings .chartHome, _, settings .releaseName, _,
      settings .releaseNamespace, _, settings .values, _, settings .helmBin, _, settings .helmHome,
      _, extraArgs, _, keys, _, metadata, _, apiVersion, _, kind, rfl⟩

theorem knownKeys_spelled {entries : Entries} :
    (∀ name ∈ entries.spelled.map Prod.fst, ∃ key ∈ knownKeys, name = .text key) ↔
      ∀ name ∈ entries.map Prod.fst,
        ∃ key ∈ knownKeys ++ alternates.map Prod.fst, name = .text key := by
  rw [forall_keys_spelled ⟨"chartRepoUrl", by decide, rfl⟩ ⟨"extraArgs", by decide, rfl⟩]
  refine forall₂_congr fun name _ => ?_
  constructor
  · rintro (rfl | rfl | ⟨key, known, rfl⟩)
    · exact ⟨"chartRepoURL", by decide, rfl⟩
    · exact ⟨"chartArgs", by decide, rfl⟩
    · exact ⟨key, List.mem_append_left _ known, rfl⟩
  · rintro ⟨key, known, rfl⟩
    rcases List.mem_append.mp known with own | other
    · exact Or.inr (Or.inr ⟨key, own, rfl⟩)
    · simp only [alternates, List.map_cons, List.map_nil, List.mem_cons, List.not_mem_nil,
        or_false] at other
      obtain rfl | rfl := other
      · exact Or.inl rfl
      · exact Or.inr (Or.inl rfl)

theorem lookup_known {entries : Entries} (once : entries.SpelledOnce) (key : String)
    (known : key ∈ knownKeys) : entries.spelled.lookup key = entries.given key := by
  have proper : ∀ key ∈ knownKeys, Text.ofString key ≠ "chartRepoURL" ∧
      Text.ofString key ≠ "chartArgs" := by decide
  exact lookup_spelled once (proper key known).1 (proper key known).2

theorem lookup_setting {entries : Entries} (once : entries.SpelledOnce) (option : Setting) :
    entries.spelled.lookup option.key = entries.given option.key :=
  lookup_known once option.key (by cases option <;> decide)

theorem ofEntries_means {entries : Entries} {config : Config}
    (accepted : ofEntries entries = .ok config) : Grammar entries ∧ Meaning entries config := by
  obtain ⟨_, renamed, settings, extraArgs, keys, metadata, apiVersion, kind⟩ :=
    ofEntries_iff.mp accepted
  obtain ⟨once, rfl⟩ := renameAll_iff.mp renamed
  simp only [readSetting_iff, lookup_setting once] at settings
  rw [readExtraArgs_iff, lookup_known once "extraArgs" (by decide)] at extraArgs
  have identity := readMetadata_means metadata
  have version := readWritten_means apiVersion
  have sort := readWritten_means kind
  rw [lookup_known once "metadata" (by decide)] at identity
  rw [lookup_known once "apiVersion" (by decide)] at version
  rw [lookup_known once "kind" (by decide)] at sort
  constructor
  · exact {
      once
      known := knownKeys_spelled.mp (checkKeys_iff.mp keys)
      settings := fun option => (admits_iff _).mpr ⟨_, settings option⟩
      extraArgs := (admits_iff _).mpr ⟨_, extraArgs⟩
      metadata := identity.1 }
  · exact {
      settings
      extraArgs
      metadata := identity.2
      apiVersion := version
      kind := sort }

theorem exists_ofEntries {entries : Entries} (grammar : Grammar entries)
    (legible : ∀ entry ∈ entries, entry.2.Legible) :
    ∃ config, ofEntries entries = .ok config := by
  have once := grammar.once
  have legibleAt : ∀ key ∈ knownKeys, ∀ value, entries.spelled.lookup key = some value →
      value.Legible := by
    intro key known value found
    rw [lookup_known once key known] at found
    obtain ⟨name, present⟩ := mem_of_given found
    exact legible _ present
  have settings : ∀ option, ∃ result, readSetting entries.spelled option = .ok result := by
    intro option
    simp only [readSetting_iff, lookup_setting once, ← admits_iff]
    exact grammar.settings option
  -- Each reader looks at one key, so they succeed independently of each other and of their order.
  choose setting settings using settings
  have extraArgs : ∃ result, readExtraArgs entries.spelled = .ok result := by
    simp only [readExtraArgs_iff, lookup_known once "extraArgs" (by decide), ← admits_iff]
    exact grammar.extraArgs
  obtain ⟨words, extraArgs⟩ := extraArgs
  have admitted := grammar.metadata
  rw [← lookup_known once "metadata" (by decide)] at admitted
  obtain ⟨identity, metadata⟩ := exists_readMetadata (legibleAt "metadata" (by decide)) admitted
  obtain ⟨version, apiVersion⟩ := exists_readWritten (legibleAt "apiVersion" (by decide))
  obtain ⟨sort, kind⟩ := exists_readWritten (legibleAt "kind" (by decide))
  have keys := checkKeys_iff.mpr (knownKeys_spelled.mpr grammar.known)
  let config : Config := {
    chartName := setting .chartName
    chartVersion := setting .chartVersion
    chartRepoName := setting .chartRepoName
    chartRepoUrl := setting .chartRepoUrl
    chartHome := setting .chartHome
    releaseName := setting .releaseName
    releaseNamespace := setting .releaseNamespace
    values := setting .values
    extraArgs := words
    helmBin := setting .helmBin
    helmHome := setting .helmHome
    metadata := identity
    apiVersion := version
    kind := sort }
  have held : ∀ option, config.setting option = setting option := by
    intro option
    cases option <;> rfl
  refine ⟨config, ofEntries_iff.mpr ⟨_, renameAll_iff.mpr ⟨once, rfl⟩, fun option => ?_, extraArgs,
    keys, metadata, apiVersion, kind⟩⟩
  rw [held]
  exact settings option

theorem ofDocument_iff {document : Value} {config : Config} :
    ofDocument document = .ok config ↔
      ∃ entries, document.entries? = some entries ∧ ofEntries entries = .ok config := by
  cases document <;> simp [ofDocument, Value.entries?]

/-- A document is read as a configuration exactly if it is nothing or a mapping that follows the
grammar, and the configuration then holds what the document means. That a part of a document cannot
be written as a text is left out here. -/
theorem ofDocument_grammar (document : Value) (legible : document.Legible) :
    ((∃ config, ofDocument document = .ok config) ↔
      ∃ entries, document.entries? = some entries ∧ Grammar entries) ∧
    ∀ config, ofDocument document = .ok config →
      ∃ entries, document.entries? = some entries ∧ Meaning entries config := by
  refine ⟨⟨?_, ?_⟩, ?_⟩
  · rintro ⟨config, accepted⟩
    obtain ⟨entries, stands, read⟩ := ofDocument_iff.mp accepted
    exact ⟨entries, stands, (ofEntries_means read).1⟩
  · rintro ⟨entries, stands, grammar⟩
    have parts : ∀ entry ∈ entries, entry.2.Legible := by
      intro entry present
      cases document with
      | null => cases stands; cases present
      | map anchor members => cases stands; exact (legible.member present).2
      | _ => cases stands
    obtain ⟨config, read⟩ := exists_ofEntries grammar parts
    exact ⟨config, ofDocument_iff.mpr ⟨entries, stands, read⟩⟩
  · intro config accepted
    obtain ⟨entries, stands, read⟩ := ofDocument_iff.mp accepted
    exact ⟨entries, stands, (ofEntries_means read).2⟩

/-- A document with the other spelling of an option and a truth value for a version follows the
grammar, and the version is what the truth value is written as. -/
theorem ofDocument_grammar_of_alternate :
    let document : Value := .map none [(.text "chartRepoURL", .text "charts"),
      (.text "kind", .null), (.text "apiVersion", .boolean true)]
    document.Legible ∧
    (∃ config, ofDocument document = .ok config ∧ config.chartRepoUrl = some "charts" ∧
      config.kind = none ∧ config.apiVersion = some "True") ∧
    ((∃ config, ofDocument document = .ok config) ↔
      ∃ entries, document.entries? = some entries ∧ Grammar entries) ∧
    ∀ config, ofDocument document = .ok config →
      ∃ entries, document.entries? = some entries ∧ Meaning entries config := by
  intro document
  have legible : document.Legible := by
    refine Value.legible_map rfl ?_
    intro entry present
    simp only [List.mem_cons, List.not_mem_nil, or_false] at present
    obtain rfl | rfl | rfl := present
    all_goals constructor <;> intro part inside <;> cases inside <;> rfl
  exact ⟨legible, ⟨_, rfl, rfl, rfl, rfl⟩, ofDocument_grammar document legible⟩

end Config

end ChartManifests
