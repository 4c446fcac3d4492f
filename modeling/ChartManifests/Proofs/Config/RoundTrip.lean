import Mathlib.Data.List.Nodup
import ChartManifests.Proofs.Config.Grammar
/-!
Configurations as documents, and back. The document of a configuration holds what is set, each under
the key that it is known by and nothing as a null, and it is read as the same configuration. So
reading a document and writing what was read gives a normal form of it.
-/

namespace ChartManifests

def Value.NullFree (value : Value) : Prop := ∀ part, value.Contains part → part ≠ .null

namespace Value.NullFree

theorem text (content : Text) : NullFree (.text content) := by
  intro part inside
  cases inside
  exact nofun

theorem list {anchor : Option Nat} {items : List Value} (free : ∀ item ∈ items, item.NullFree) :
    NullFree (.list anchor items) := by
  intro part inside
  cases inside with
  | itself => exact nofun
  | inList present inside => exact free _ present part inside

theorem map {anchor : Option Nat} {entries : Entries}
    (free : ∀ entry ∈ entries, entry.1.NullFree ∧ entry.2.NullFree) :
    NullFree (.map anchor entries) := by
  intro part inside
  cases inside with
  | itself => exact nofun
  | inKey present inside => exact (free _ present).1 part inside
  | inEntry present inside => exact (free _ present).2 part inside

end Value.NullFree

namespace TextMap

theorem eq_of_entries {first second : TextMap} (same : first.entries = second.entries) :
    first = second := by
  cases first
  cases second
  cases same
  rfl

theorem putEntry_new (name text : Text) (entries : List (Text × Text))
    (new : name ∉ entries.map Prod.fst) :
    putEntry name text entries = entries ++ [(name, text)] := by
  induction entries with
  | nil => rfl
  | cons entry rest ih =>
    simp only [List.map_cons, List.mem_cons, not_or] at new
    simp only [putEntry, if_neg (Ne.symm new.1), ih new.2, List.cons_append]

theorem entries_ofEntries (entries : List (Text × Text)) (unique : (entries.map Prod.fst).Nodup) :
    (ofEntries entries).entries = entries := by
  induction entries using List.reverseRecOn with
  | nil => rfl
  | append_singleton entries last ih =>
    have unfolded : ofEntries (entries ++ [last]) = (ofEntries entries).put last.1 last.2 := by
      simp [ofEntries]
    rw [List.map_append, List.nodup_append] at unique
    obtain ⟨before, -, apart⟩ := unique
    have new : last.1 ∉ entries.map Prod.fst :=
      fun present => apart _ present _ (by simp) rfl
    rw [unfolded]
    simp only [put, ih before, putEntry_new _ _ _ new]

theorem ofEntries_self (map : TextMap) : ofEntries map.entries = map :=
  eq_of_entries (entries_ofEntries map.entries map.unique)

end TextMap

namespace Entries

def ofFields (fields : List (String × Option Value)) : Entries :=
  fields.flatMap fun field => Config.member? field.1 field.2

theorem mem_ofFields {fields : List (String × Option Value)} {entry : Value × Value} :
    entry ∈ ofFields fields ↔
      ∃ key value, (key, some value) ∈ fields ∧ entry = (.text (Text.ofString key), value) := by
  simp only [ofFields, List.mem_flatMap]
  constructor
  · rintro ⟨⟨key, held⟩, present, inside⟩
    cases held with
    | none => cases inside
    | some value => exact ⟨key, value, present, List.mem_singleton.mp inside⟩
  · rintro ⟨key, value, present, rfl⟩
    exact ⟨_, present, List.mem_singleton.mpr rfl⟩

theorem lookup_member? (key other : Text) (value : Option Value) :
    lookup (Config.member? key value) other = if key = other then value else none := by
  cases value with
  | none => simp [Config.member?]
  | some value => simp [Config.member?, lookup_cons, Value.text?]

theorem lookup_ofFields_none {fields : List (String × Option Value)} {key : String}
    (unset : key ∉ fields.map Prod.fst) : (ofFields fields).lookup key = none := by
  cases found : (ofFields fields).lookup key with
  | none => rfl
  | some value =>
    obtain ⟨other, _, present, same⟩ := mem_ofFields.mp (mem_of_lookup found)
    simp only [Prod.mk.injEq, Value.text.injEq] at same
    cases Text.ofString_injective same.1
    exact absurd (List.mem_map_of_mem present) unset

theorem lookup_ofFields {fields : List (String × Option Value)}
    (unique : (fields.map Prod.fst).Nodup) {key : String} {value : Option Value}
    (present : (key, value) ∈ fields) : (ofFields fields).lookup key = value := by
  induction fields with
  | nil => cases present
  | cons field rest ih =>
    simp only [List.map_cons, List.nodup_cons] at unique
    have split : ofFields (field :: rest) =
        Config.member? field.1 field.2 ++ ofFields rest := rfl
    rw [split, lookup_append, lookup_member?]
    rcases List.mem_cons.mp present with rfl | later
    · rw [if_pos rfl, lookup_ofFields_none unique.1, Option.or_none]
    · have apart : Text.ofString field.1 ≠ Text.ofString key := by
        intro same
        have named : field.1 = key := Text.ofString_injective same
        exact unique.1 (List.mem_map.mpr ⟨_, later, named.symm⟩)
      rw [if_neg apart, Option.none_or, ih unique.2 later]

theorem nodup_keys_ofFields {fields : List (String × Option Value)}
    (unique : (fields.map Prod.fst).Nodup) : ((ofFields fields).map Prod.fst).Nodup := by
  have injective : Function.Injective fun key : String => Value.text (Text.ofString key) :=
    fun _ _ same => Text.ofString_injective (Value.text.inj same)
  have keys := unique.map injective
  rw [List.map_map] at keys
  refine keys.sublist ?_
  clear unique injective keys
  induction fields with
  | nil => exact List.Sublist.refl _
  | cons field rest ih =>
    obtain ⟨key, value⟩ := field
    cases value with
    | none => exact ih.cons _
    | some value => exact ih.cons_cons _

theorem nullFree_ofFields {fields : List (String × Option Value)}
    (free : ∀ field ∈ fields, ∀ value, field.2 = some value → value.NullFree) :
    Value.NullFree (.map none (ofFields fields)) := by
  refine .map ?_
  intro entry present
  obtain ⟨key, value, set, rfl⟩ := mem_ofFields.mp present
  exact ⟨.text _, free _ set value rfl⟩

structure Canonical (keys : List String) (entries : Entries) : Prop where
  known : ∀ name ∈ entries.map Prod.fst, ∃ key ∈ keys, name = .text (Text.ofString key)
  once : (entries.map Prod.fst).Nodup

theorem canonical_ofFields {keys : List String} {fields : List (String × Option Value)}
    (same : (fields.map Prod.fst).Perm keys) (unique : keys.Nodup) :
    Canonical keys (ofFields fields) := by
  refine ⟨?_, nodup_keys_ofFields (same.nodup_iff.mpr unique)⟩
  intro name present
  obtain ⟨entry, inside, rfl⟩ := List.mem_map.mp present
  obtain ⟨key, value, set, rfl⟩ := mem_ofFields.mp inside
  exact ⟨key, same.mem_iff.mp (List.mem_map_of_mem set), rfl⟩

theorem spelled_of_canonical {entries : Entries} (canonical : Canonical Config.knownKeys entries) :
    entries.SpelledOnce ∧ entries.spelled = entries := by
  have absent : ∀ spelling ∈ Config.alternates, entries.lookup spelling.1 = none := by
    intro spelling other
    cases found : entries.lookup spelling.1 with
    | none => rfl
    | some value =>
      have present := List.mem_map_of_mem (f := Prod.fst) (mem_of_lookup found)
      obtain ⟨key, known, same⟩ := canonical.known _ present
      cases Text.ofString_injective (Value.text.inj same)
      have foreign : ∀ spelling ∈ Config.alternates, spelling.1 ∉ Config.knownKeys := by decide
      exact absurd known (foreign spelling other)
  have url := absent ("chartRepoURL", "chartRepoUrl") (by decide)
  have args := absent ("chartArgs", "extraArgs") (by decide)
  constructor
  · intro spelling other
    simp [has, absent spelling other]
  · simp only [spelled, respelled, url, args]

end Entries

theorem means_map {α : Type} {kind : Value → α → Prop} {write : α → Value}
    (proper : ∀ content, write content ≠ .null) (meant : ∀ content, kind (write content) content)
    (option : Option α) : Means kind (option.map write) option := by
  cases option with
  | none => exact .absent
  | some content => exact .given (proper content) (meant content)

namespace Config

open Entries

def fields (config : Config) : List (String × Option Value) :=
  [("chartName", config.chartName.map .text), ("chartVersion", config.chartVersion.map .text),
    ("chartRepoName", config.chartRepoName.map .text),
    ("chartRepoUrl", config.chartRepoUrl.map .text), ("chartHome", config.chartHome.map .text),
    ("releaseName", config.releaseName.map .text),
    ("releaseNamespace", config.releaseNamespace.map .text), ("values", config.values.map .text),
    ("extraArgs", config.extraArgs.map fun words => .list none (words.map .text)),
    ("helmBin", config.helmBin.map .text), ("helmHome", config.helmHome.map .text),
    ("metadata", config.metadata.map metadataValue), ("apiVersion", config.apiVersion.map .text),
    ("kind", config.kind.map .text)]

def metadataFields (identity : ObjectMeta) : List (String × Option Value) :=
  [("name", identity.name.map .text), ("namespace", identity.space.map .text),
    ("labels", identity.labels.map mapValue), ("annotations", identity.annotations.map mapValue)]

theorem toDocument_eq (config : Config) : config.toDocument = .map none (ofFields config.fields) := by
  simp [toDocument, ofFields, fields, textEntry]

theorem metadataValue_eq (identity : ObjectMeta) :
    metadataValue identity = .map none (ofFields (metadataFields identity)) := by
  simp [metadataValue, ofFields, metadataFields, textEntry]

theorem fields_perm (config : Config) : (config.fields.map Prod.fst).Perm knownKeys := by
  have keys : config.fields.map Prod.fst = empty.fields.map Prod.fst := rfl
  rw [keys]
  decide

theorem canonical_fields (config : Config) : Canonical knownKeys (ofFields config.fields) :=
  canonical_ofFields config.fields_perm (by decide)

theorem canonical_metadataFields (identity : ObjectMeta) :
    Canonical metadataKeys (ofFields (metadataFields identity)) :=
  canonical_ofFields (List.Perm.refl metadataKeys) (by decide)

theorem lookup_field (config : Config) {key : String} {value : Option Value}
    (present : (key, value) ∈ config.fields) : (ofFields config.fields).lookup key = value :=
  lookup_ofFields (config.fields_perm.nodup_iff.mpr (by decide)) present

theorem lookup_metadataField (identity : ObjectMeta) {key : String} {value : Option Value}
    (present : (key, value) ∈ metadataFields identity) :
    (ofFields (metadataFields identity)).lookup key = value :=
  lookup_ofFields (show ((metadataFields identity).map Prod.fst).Nodup from
    (by decide : metadataKeys.Nodup)) present

theorem nullFree_mapValue (map : TextMap) : (mapValue map).NullFree := by
  refine .map ?_
  intro entry present
  obtain ⟨pair, _, rfl⟩ := List.mem_map.mp present
  exact ⟨.text _, .text _⟩

theorem nullFree_metadataValue (identity : ObjectMeta) : (metadataValue identity).NullFree := by
  rw [metadataValue_eq]
  refine nullFree_ofFields ?_
  simp only [metadataFields, List.forall_mem_cons, Option.map_eq_some_iff]
  refine ⟨?_, ?_, ?_, ?_, nofun⟩
  all_goals rintro _ ⟨content, -, rfl⟩
  · exact .text content
  · exact .text content
  · exact nullFree_mapValue content
  · exact nullFree_mapValue content

theorem nullFree_toDocument (config : Config) : config.toDocument.NullFree := by
  have words : ∀ words : List Text, Value.NullFree (.list none (words.map .text)) := by
    intro words
    refine .list ?_
    intro item present
    obtain ⟨word, _, rfl⟩ := List.mem_map.mp present
    exact .text word
  rw [toDocument_eq]
  refine nullFree_ofFields ?_
  simp only [fields, List.forall_mem_cons, Option.map_eq_some_iff]
  have text : ∀ (option : Option Text) value,
      (∃ content, option = some content ∧ Value.text content = value) → value.NullFree := by
    rintro option _ ⟨content, -, rfl⟩
    exact .text content
  refine ⟨text _, text _, text _, text _, text _, text _, text _, text _, ?_, text _, text _, ?_,
    text _, text _, nofun⟩
  · rintro _ ⟨content, -, rfl⟩
    exact words content
  · rintro _ ⟨identity, -, rfl⟩
    exact nullFree_metadataValue identity

theorem writtenPairs_text (pairs : List (Text × Text)) :
    writtenPairs (pairs.map fun pair => (.text pair.1, .text pair.2)) = some pairs := by
  induction pairs with
  | nil => rfl
  | cons pair rest ih =>
    simp only [List.map_cons, writtenPairs, ih]
    rfl

theorem readWritten_text {entries : Entries} {key : Text} {option : Option Text}
    (found : entries.lookup key = option.map .text) : readWritten entries key = .ok option := by
  unfold readWritten
  rw [found]
  cases option <;> rfl

theorem readTextMap_mapValue {entries : Entries} {key : Text} {option : Option TextMap}
    (found : entries.lookup key = option.map mapValue) : readTextMap entries key = .ok option := by
  unfold readTextMap
  rw [found]
  cases option with
  | none => rfl
  | some map => simp only [Option.map_some, mapValue, writtenPairs_text, TextMap.ofEntries_self]

theorem metadataOf_fields (identity : ObjectMeta) :
    metadataOf (ofFields (metadataFields identity)) = .ok identity :=
  metadataOf_iff.mpr
    ⟨readWritten_text (lookup_metadataField identity (by simp [metadataFields])),
      readWritten_text (lookup_metadataField identity (by simp [metadataFields])),
      readTextMap_mapValue (lookup_metadataField identity (by simp [metadataFields])),
      readTextMap_mapValue (lookup_metadataField identity (by simp [metadataFields]))⟩

theorem isMetadata_fields (identity : ObjectMeta) :
    isMetadata (ofFields (metadataFields identity)) = true := by
  have mapping : ∀ {key : String} (option : Option TextMap),
      (key, option.map mapValue) ∈ metadataFields identity →
      Admits IsMapping ((ofFields (metadataFields identity)).lookup key) := by
    intro key option present value found
    rw [lookup_metadataField identity present, Option.map_eq_some_iff] at found
    obtain ⟨map, -, rfl⟩ := found
    exact Or.inr ⟨none, _, rfl⟩
  exact isMetadata_iff.mpr ⟨(canonical_metadataFields identity).known,
    mapping identity.labels (by simp [metadataFields]),
    mapping identity.annotations (by simp [metadataFields])⟩

theorem readMetadata_metadataValue {entries : Entries} {option : Option ObjectMeta}
    (found : entries.lookup "metadata" = option.map metadataValue) :
    readMetadata entries = .ok option := by
  unfold readMetadata
  rw [found]
  cases option with
  | none => rfl
  | some identity =>
    simp only [Option.map_some, metadataValue_eq, isMetadata_fields, metadataOf_fields, if_true]
    rfl

theorem ofDocument_toDocument (config : Config) : ofDocument config.toDocument = .ok config := by
  rw [toDocument_eq]
  have canonical := config.canonical_fields
  obtain ⟨once, unchanged⟩ := spelled_of_canonical canonical
  have settings : ∀ option : Setting,
      (option.key, (config.setting option).map Value.text) ∈ config.fields := by
    intro option
    cases option <;> simp [fields, Setting.key, setting]
  refine ofEntries_iff.mpr ⟨_, renameAll_iff.mpr ⟨once, unchanged⟩, ?_, ?_,
    checkKeys_iff.mpr canonical.known, ?_, ?_, ?_⟩
  · intro option
    rw [readSetting_iff, config.lookup_field (settings option)]
    have proper : ∀ content : Text, Value.text content ≠ .null := fun _ => Value.noConfusion
    exact means_map proper (fun _ => rfl) _
  · have words : (("extraArgs", config.extraArgs.map fun words => .list none (words.map .text)) :
        String × Option Value) ∈ config.fields := by
      simp [fields]
    rw [readExtraArgs_iff, config.lookup_field words]
    have proper : ∀ words : List Text, Value.list none (words.map .text) ≠ .null := by
      intro words
      exact nofun
    exact means_map proper (fun words => ⟨none, rfl⟩) _
  · exact readMetadata_metadataValue (config.lookup_field (by simp [fields]))
  · exact readWritten_text (config.lookup_field (by simp [fields]))
  · exact readWritten_text (config.lookup_field (by simp [fields]))

/-- What a document is written as that has been read as a configuration. -/
def normalized (document : Value) : Except DocumentFault Value :=
  (ofDocument document).map toDocument

/-- The document of a configuration has known keys only, each once, also inside of the identity; it
has no nulls; and it is read as the configuration. So what a document is normalized to does not
change when it is normalized again. -/
theorem document_roundTrip :
    (∀ config : Config, config.toDocument.NullFree ∧
      (∃ entries : Entries, config.toDocument = .map none entries ∧
        entries.Canonical knownKeys ∧ ∀ identity, entries.lookup "metadata" = some identity →
          ∃ members : Entries, identity = .map none members ∧ members.Canonical metadataKeys) ∧
      ofDocument config.toDocument = .ok config) ∧
    ∀ document normal : Value, normalized document = .ok normal →
      normalized normal = .ok normal := by
  constructor
  · intro config
    refine ⟨config.nullFree_toDocument,
      ⟨_, config.toDocument_eq, config.canonical_fields, ?_⟩, config.ofDocument_toDocument⟩
    intro identity found
    have own : ("metadata", config.metadata.map metadataValue) ∈ config.fields := by
      simp [fields]
    rw [config.lookup_field own, Option.map_eq_some_iff] at found
    obtain ⟨held, -, rfl⟩ := found
    exact ⟨_, metadataValue_eq held, canonical_metadataFields held⟩
  · intro document normal written
    unfold normalized at written ⊢
    cases read : ofDocument document with
    | error fault => simp [read, Except.map] at written
    | ok config =>
      simp only [read, Except.map, Except.ok.injEq] at written
      subst written
      simp only [config.ofDocument_toDocument, Except.map]

theorem document_roundTrip_of_alternate :
    let document : Value := .map none [(.text "chartArgs", .list none []),
      (.text "metadata", .map none [(.text "labels", .map none []), (.text "name", .boolean false)]),
      (.text "values", .null), (.text "kind", .boolean true)]
    let normal : Value := .map none [(.text "extraArgs", .list none []),
      (.text "metadata", .map none [(.text "name", .text "False"), (.text "labels", .map none [])]),
      (.text "kind", .text "True")]
    normalized document = .ok normal ∧ normalized normal = .ok normal := by
  intro document normal
  have written : normalized document = .ok normal := rfl
  exact ⟨written, document_roundTrip.2 document normal written⟩

end Config

end ChartManifests
