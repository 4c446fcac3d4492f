import ChartManifests.Proofs.Config.Grammar
import ChartManifests.Proofs.Resolve
/-!
What becomes of a configuration that is refused. A fault of the document is told as one, and so is a
chart without a name. Three kinds of configurations end otherwise: a stream with a scalar that has
no value, entries of which an unknown key is no text, and an integer of too many digits where it
would have to be written.
-/

namespace ChartManifests

/-- The document of a raw configuration, which a stream still has to be read for. -/
def RawConfig.loaded : RawConfig → Except Yaml.Fault Value
  | .stream source => Yaml.load source
  | .document value => .ok value

theorem Value.Legible.shown {value : Value} (legible : value.Legible) :
    ∃ form, value.shown? = some form := by
  have written := legible value .itself
  cases value with
  | text content => exact ⟨_, rfl⟩
  | date day => exact ⟨_, rfl⟩
  | moment time => exact ⟨_, rfl⟩
  | _ => exact Option.isSome_iff_exists.mp (by simpa [Value.written?] using written)

namespace Config

open Entries

/-- The entries pass every check in front of that of the keys, and a key is no text. -/
structure MixedKeys (entries : Entries) : Prop where
  once : entries.SpelledOnce
  settings : ∀ option : Setting,
    Admits (fun value => ∃ content, value = .text content) (entries.given option.key)
  extraArgs : Admits (fun value => ∃ words, Lists value words) (entries.given "extraArgs")
  mixed : ∃ key ∈ entries.map Prod.fst, key.text? = none

section Readers

variable {ways : DocumentFault → Prop}
  (invalid : ∀ fault, (∀ keys, fault ≠ .unknownKeys keys) → ways (.invalid fault))
  {entries : Entries}

include invalid

theorem refusal_ways {value : Value} {fault : String → ConfigFault}
    (other : ∀ shown keys, fault shown ≠ .unknownKeys keys)
    (illegible : ¬ value.Legible → ways .unwritable) : ways (refusal value fault) := by
  unfold refusal
  cases shown : value.shown? with
  | some form => exact invalid _ (other form)
  | none =>
    refine illegible fun legible => ?_
    obtain ⟨form, present⟩ := legible.shown
    rw [shown] at present
    cases present

theorem rename_fails (alternate key : String) : FailsOnly ways (rename entries alternate key) := by
  unfold rename
  split
  · exact .ok _
  · split
    · exact .error (invalid _ nofun)
    · exact .ok _

theorem renameAll_fails : FailsOnly ways (renameAll entries) := by
  simp only [renameAll, alternates, List.foldlM_cons, List.foldlM_nil]
  refine .bind (rename_fails invalid _ _) fun _ _ => .bind (rename_fails invalid _ _) ?_
  exact fun _ _ => .ok _

theorem readSetting_fails (option : Setting)
    (illegible : ∀ value, entries.lookup option.key = some value → ¬ value.Legible →
      ways .unwritable) : FailsOnly ways (readSetting entries option) := by
  unfold readSetting
  split
  · exact .ok _
  · exact .ok _
  · exact .ok _
  next value _ _ found => exact .error (refusal_ways invalid nofun (illegible value found))

theorem readExtraArgs_fails
    (illegible : ∀ value, entries.lookup "extraArgs" = some value → ¬ value.Legible →
      ways .unwritable) : FailsOnly ways (readExtraArgs entries) := by
  unfold readExtraArgs
  split
  · exact .ok _
  · exact .ok _
  next anchor items found =>
    split
    · exact .ok _
    · exact .error (refusal_ways invalid nofun (illegible _ found))
  next value _ _ found => exact .error (refusal_ways invalid nofun (illegible value found))

omit invalid in
theorem checkKeys_fails
    (unknown : ∀ names : List Text, ways (.invalid (.unknownKeys (names.mergeSort Text.isUpTo))))
    (mixed : ∀ key ∈ entries.map Prod.fst, key.text? = none → ways (.keyKind key.kindName)) :
    FailsOnly ways (checkKeys entries) := by
  simp only [checkKeys]
  split
  next key found =>
    have unknown := (List.mem_filter.mp (List.mem_of_find?_eq_some found)).1
    have untold : key.text? = none := by
      simpa using List.find?_some found
    exact .error (mixed key unknown untold)
  next =>
    split
    · exact .ok _
    · exact .error (unknown _)

omit invalid in
theorem readWritten_fails {key : Text}
    (illegible : ∀ value, entries.lookup key = some value → ¬ value.Legible → ways .unwritable) :
    FailsOnly ways (readWritten entries key) := by
  unfold readWritten
  split
  · exact .ok _
  · exact .ok _
  next value _ found =>
    split
    · exact .ok _
    next unwritten =>
      refine .error (illegible value found fun legible => ?_)
      have written := legible value .itself
      rw [unwritten] at written
      cases written

omit invalid in
theorem readTextMap_fails {key : Text}
    (illegible : ∀ value, entries.lookup key = some value → ¬ value.Legible → ways .unwritable) :
    FailsOnly ways (readTextMap entries key) := by
  unfold readTextMap
  split
  next anchor pairs found =>
    split
    · exact .ok _
    next unwritten =>
      refine .error (illegible _ found fun legible => ?_)
      obtain ⟨written, writes⟩ := exists_writtenPairs fun pair inside =>
        ⟨(legible.member inside).1 _ .itself, (legible.member inside).2 _ .itself⟩
      rw [unwritten] at writes
      cases writes
  next => exact .ok _

omit invalid in
theorem metadataOf_fails {members : Entries}
    (illegible : ∀ key value, members.lookup key = some value → ¬ value.Legible →
      ways .unwritable) : FailsOnly ways (metadataOf members) := by
  unfold metadataOf
  refine .bind (readWritten_fails (illegible _)) fun _ _ => ?_
  refine .bind (readWritten_fails (illegible _)) fun _ _ => ?_
  refine .bind (readTextMap_fails (illegible _)) fun _ _ => ?_
  refine .bind (readTextMap_fails (illegible _)) fun _ _ => ?_
  exact .ok _

theorem readMetadata_fails
    (illegible : ∀ value, entries.lookup "metadata" = some value → ¬ value.Legible →
      ways .unwritable) : FailsOnly ways (readMetadata entries) := by
  unfold readMetadata
  split
  · exact .ok _
  · exact .ok _
  next anchor members found =>
    split
    · refine .map (metadataOf_fails fun key value present untold => ?_)
      exact illegible _ found fun legible => untold (legible.member (mem_of_lookup present)).2
    · exact .error (refusal_ways invalid nofun (illegible _ found))
  next value _ _ found => exact .error (refusal_ways invalid nofun (illegible value found))

end Readers

theorem mem_of_mem_spelled {entries : Entries} {key : Value}
    (present : key ∈ entries.spelled.map Prod.fst) (untold : key.text? = none) :
    key ∈ entries.map Prod.fst := by
  rw [spelled, mem_keys_respelled] at present
  obtain ⟨present, -⟩ | ⟨-, rfl⟩ := present
  · rw [mem_keys_respelled] at present
    obtain ⟨present, -⟩ | ⟨-, rfl⟩ := present
    · exact present
    · cases untold
  · cases untold

theorem mem_spelled_of_mem {entries : Entries} {key : Value} (present : key ∈ entries.map Prod.fst)
    (untold : key.text? = none) : key ∈ entries.spelled.map Prod.fst := by
  have proper : ∀ name : Text, key ≠ .text name := by
    rintro name rfl
    cases untold
  rw [spelled, mem_keys_respelled, mem_keys_respelled]
  exact Or.inl ⟨Or.inl ⟨present, proper _⟩, proper _⟩

theorem ofEntries_fails {ways : DocumentFault → Prop} {entries : Entries}
    (invalid : ∀ fault, (∀ keys, fault ≠ .unknownKeys keys) → ways (.invalid fault))
    (unknown : ∀ names : List Text, ways (.invalid (.unknownKeys (names.mergeSort Text.isUpTo))))
    (mixed : ∀ kind, MixedKeys entries → ways (.keyKind kind))
    (illegible : ∀ entry ∈ entries, ¬ entry.2.Legible → ways .unwritable) :
    FailsOnly ways (ofEntries entries) := by
  unfold ofEntries
  refine .bind (renameAll_fails invalid) fun renamed spelling => ?_
  obtain ⟨once, rfl⟩ := renameAll_iff.mp spelling
  have untold : ∀ key ∈ knownKeys, ∀ value, entries.spelled.lookup key = some value →
      ¬ value.Legible → ways .unwritable := by
    intro key known value found
    rw [lookup_known once key known] at found
    obtain ⟨name, present⟩ := mem_of_given found
    exact illegible _ present
  have setting : ∀ option, FailsOnly ways (readSetting entries.spelled option) := by
    intro option
    exact readSetting_fails invalid option (untold _ (by cases option <;> decide))
  refine .bind (setting _) fun _ chartName => ?_
  refine .bind (setting _) fun _ chartVersion => ?_
  refine .bind (setting _) fun _ chartRepoName => ?_
  refine .bind (setting _) fun _ chartRepoUrl => ?_
  refine .bind (setting _) fun _ chartHome => ?_
  refine .bind (setting _) fun _ releaseName => ?_
  refine .bind (setting _) fun _ releaseNamespace => ?_
  refine .bind (setting _) fun _ values => ?_
  refine .bind (setting _) fun _ helmBin => ?_
  refine .bind (setting _) fun _ helmHome => ?_
  refine .bind (readExtraArgs_fails invalid (untold "extraArgs" (by decide))) fun _ extraArgs => ?_
  refine .bind (checkKeys_fails unknown ?_) fun _ _ => ?_
  · -- The keys are looked at behind the options, so these have all been read by then.
    intro key present nonText
    refine mixed _ ⟨once, ?_, ?_, key, mem_of_mem_spelled present nonText, nonText⟩
    · intro option
      have read : ∃ result, readSetting entries.spelled option = .ok result := by
        cases option
        exacts [⟨_, chartName⟩, ⟨_, chartVersion⟩, ⟨_, chartRepoName⟩, ⟨_, chartRepoUrl⟩,
          ⟨_, chartHome⟩, ⟨_, releaseName⟩, ⟨_, releaseNamespace⟩, ⟨_, values⟩, ⟨_, helmBin⟩,
          ⟨_, helmHome⟩]
      simpa only [readSetting_iff, lookup_setting once, ← admits_iff] using read
    · have read : ∃ result, readExtraArgs entries.spelled = .ok result := ⟨_, extraArgs⟩
      simpa only [readExtraArgs_iff, lookup_known once "extraArgs" (by decide), ← admits_iff]
        using read
  refine .bind (readMetadata_fails invalid (untold "metadata" (by decide))) fun _ _ => ?_
  refine .bind (readWritten_fails (untold "apiVersion" (by decide))) fun _ _ => ?_
  refine .bind (readWritten_fails (untold "kind" (by decide))) fun _ _ => ?_
  exact .ok _

theorem checkKeys_mixed {entries : Entries}
    (mixed : ∃ key ∈ entries.map Prod.fst, key.text? = none) :
    ∃ kind, checkKeys entries = .error (.keyKind kind) := by
  obtain ⟨key, present, nonText⟩ := mixed
  have unknown : isKnown key = false := by
    cases key with
    | text content => cases nonText
    | _ => rfl
  cases found : ((entries.map Prod.fst).filter fun key => !isKnown key).find?
      fun key => key.text?.isNone with
  | some first => exact ⟨first.kindName, by simp only [checkKeys, found]⟩
  | none =>
    have inside : key ∈ (entries.map Prod.fst).filter fun key => !isKnown key :=
      List.mem_filter.mpr ⟨present, by simp [unknown]⟩
    have told := List.find?_eq_none.mp found key inside
    simp [nonText] at told

theorem ofEntries_mixed {entries : Entries} (mixed : MixedKeys entries) :
    ∃ kind, ofEntries entries = .error (.keyKind kind) := by
  have once := mixed.once
  have spelling : renameAll entries = .ok entries.spelled := renameAll_iff.mpr ⟨once, rfl⟩
  have settings : ∀ option, ∃ result, readSetting entries.spelled option = .ok result := by
    intro option
    simp only [readSetting_iff, lookup_setting once, ← admits_iff]
    exact mixed.settings option
  choose setting settings using settings
  have extraArgs : ∃ result, readExtraArgs entries.spelled = .ok result := by
    simp only [readExtraArgs_iff, lookup_known once "extraArgs" (by decide), ← admits_iff]
    exact mixed.extraArgs
  obtain ⟨words, extraArgs⟩ := extraArgs
  obtain ⟨key, present, nonText⟩ := mixed.mixed
  obtain ⟨kind, refused⟩ := checkKeys_mixed ⟨key, mem_spelled_of_mem present nonText, nonText⟩
  refine ⟨kind, ?_⟩
  simp only [ofEntries, spelling, settings, extraArgs, refused, bind, Except.bind]

inductive Refused (document : Value) : DocumentFault → Prop
  | invalid (fault : ConfigFault) : Refused document (.invalid fault)
  | keyKind {entries : Entries} (kind : String) :
      document.entries? = some entries → MixedKeys entries → Refused document (.keyKind kind)
  | unwritable : ¬ document.Legible → Refused document .unwritable

theorem ofDocument_fails (document : Value) :
    FailsOnly (Refused document) (ofDocument document) := by
  unfold ofDocument
  split
  next =>
    exact ofEntries_fails (fun fault _ => .invalid fault) (fun _ => .invalid _)
      (fun kind mixed => .keyKind kind rfl mixed) nofun
  next anchor entries =>
    refine ofEntries_fails (fun fault _ => .invalid fault) (fun _ => .invalid _)
      (fun kind mixed => .keyKind kind rfl mixed) ?_
    exact fun entry present untold => .unwritable fun legible =>
      untold (legible.member present).2
  next => exact .error (refusal_ways (fun fault _ => .invalid fault) nofun .unwritable)

theorem ofDocument_mixed {document : Value} {entries : Entries}
    (stands : document.entries? = some entries) (mixed : MixedKeys entries) :
    ∃ kind, ofDocument document = .error (.keyKind kind) := by
  obtain ⟨kind, refused⟩ := ofEntries_mixed mixed
  cases document with
  | null => cases stands; exact ⟨kind, refused⟩
  | map anchor members => cases stands; exact ⟨kind, refused⟩
  | _ => cases stands

end Config

/-- A raw configuration whose refusal is not told as a fault of the configuration. -/
inductive RawConfig.Astray (raw : RawConfig) : Prop
  | scalar {fault : Yaml.Fault} :
      raw.loaded = .error fault → fault ≠ .malformed → Astray raw
  | mixedKeys {document : Value} {entries : Entries} :
      raw.loaded = .ok document → document.entries? = some entries → Config.MixedKeys entries →
      Astray raw
  | unwritable {document : Value} :
      raw.loaded = .ok document → Config.ofDocument document = .error .unwritable → Astray raw

/-- A result that is a success, or a failure that tells what is wrong with a configuration. -/
def Accounted {α : Type} : Except Failure α → Prop :=
  FailsOnly fun failure => (∃ fault, failure = .config fault) ∨ failure = .noChartName

namespace Config

variable {raw : RawConfig}

theorem readNamed_of_malformed (broken : raw.loaded = .error .malformed) :
    readNamed raw = .error (.config .unreadable) := by
  cases raw with
  | stream source =>
    simp only [RawConfig.loaded] at broken
    simp only [readNamed, read, loadDocument, broken, bind, Except.bind]
  | document value => cases broken

theorem readNamed_of_fault {fault : Yaml.Fault} (broken : raw.loaded = .error fault)
    (other : fault ≠ .malformed) : readNamed raw = .error (.scalar fault) := by
  cases raw with
  | stream source =>
    simp only [RawConfig.loaded] at broken
    cases fault with
    | malformed => exact absurd rfl other
    | _ => simp only [readNamed, read, loadDocument, broken, bind, Except.bind]
  | document value => cases broken

theorem read_of_document {document : Value} (loaded : raw.loaded = .ok document) :
    read raw = readDocument document := by
  cases raw with
  | stream source =>
    simp only [RawConfig.loaded] at loaded
    simp only [read, loadDocument, loaded, bind, Except.bind]
  | document value =>
    cases loaded
    rfl

theorem readNamed_of_refused {document : Value} {fault : DocumentFault}
    (loaded : raw.loaded = .ok document) (refused : ofDocument document = .error fault) :
    readNamed raw = .error (failureOf fault) := by
  simp only [readNamed, read_of_document loaded, readDocument, refused, mapError_error, bind,
    Except.bind]

theorem readNamed_of_config {document : Value} {config : Config} {failure : Failure}
    (loaded : raw.loaded = .ok document) (accepted : ofDocument document = .ok config)
    (failed : readNamed raw = .error failure) : failure = .noChartName := by
  simp only [readNamed, read_of_document loaded, readDocument, accepted, mapError_ok, bind,
    Except.bind] at failed
  split at failed
  · cases failed
  · cases failed
    rfl

theorem accounted_iff : Accounted (readNamed raw) ↔ ¬ raw.Astray := by
  constructor
  · intro accounted astray
    have told : ∀ failure, readNamed raw = .error failure →
        (∃ fault, failure = .config fault) ∨ failure = .noChartName := accounted
    cases astray with
    | scalar broken other => simpa using told _ (readNamed_of_fault broken other)
    | mixedKeys loaded stands mixed =>
      obtain ⟨kind, refused⟩ := ofDocument_mixed stands mixed
      simpa [failureOf] using told _ (readNamed_of_refused loaded refused)
    | unwritable loaded refused =>
      simpa [failureOf] using told _ (readNamed_of_refused loaded refused)
  · intro straight failure failed
    cases loaded : raw.loaded with
    | error fault =>
      by_cases broken : fault = .malformed
      · subst broken
        rw [readNamed_of_malformed loaded] at failed
        cases failed
        exact Or.inl ⟨_, rfl⟩
      · exact absurd (.scalar loaded broken) straight
    | ok document =>
      cases read : ofDocument document with
      | ok config => exact Or.inr (readNamed_of_config loaded read failed)
      | error fault =>
        rw [readNamed_of_refused loaded read] at failed
        cases ofDocument_fails document _ read with
        | invalid reason => cases failed; exact Or.inl ⟨reason, rfl⟩
        | keyKind kind stands mixed => exact absurd (.mixedKeys loaded stands mixed) straight
        | unwritable => exact absurd (.unwritable loaded read) straight

theorem resolve_fails_iff {host : Host} {world : World} {failure : Failure} :
    ((resolve host raw).run world).1 = .error failure ↔
      readNamed raw = .error failure ∨
        (∃ given, readNamed raw = .ok given) ∧
          ∃ fault, WorkingDirectory.fault? host world = some fault ∧ failure =
            .noDirectory fault (WorkingDirectory.numbered host world.directories).path.text := by
  cases accepted : readNamed raw with
  | error other => simp [resolve_error accepted]
  | ok config =>
    obtain ⟨name, named, _⟩ := readNamed_name accepted
    cases able : WorkingDirectory.fault? host world with
    | none => simp [resolve_ok accepted named able]
    | some fault => simp [resolve_refused accepted able, eq_comm]

theorem accounted_resolve {host : Host} {world : World}
    (able : WorkingDirectory.fault? host world = none) :
    Accounted ((resolve host raw).run world).1 ↔ Accounted (readNamed raw) := by
  simp only [Accounted, FailsOnly, resolve_fails_iff, able, reduceCtorEq, false_and, exists_false,
    and_false, or_false]

/-- Where a directory can be made, a raw configuration is resolved, or it is told what is wrong with
it, exactly if it does not go astray; and what goes astray does so everywhere. A broken stream is
told to be unreadable, and an unknown key to be a fault of the configuration. Only a document that
cannot be written goes astray for that. -/
theorem resolve_accounted (host : Host) (raw : RawConfig) (world : World) :
    (WorkingDirectory.fault? host world = none →
      (Accounted ((resolve host raw).run world).1 ↔ ¬ raw.Astray)) ∧
    (raw.Astray → ¬ Accounted ((resolve host raw).run world).1) ∧
    (raw.loaded = .error .malformed →
      ((resolve host raw).run world).1 = .error (.config .unreadable)) ∧
    (∀ document entries, raw.loaded = .ok document → document.entries? = some entries →
      (∃ name ∈ entries.map Prod.fst,
        ∀ key ∈ knownKeys ++ alternates.map Prod.fst, name ≠ .text key) →
      ¬ raw.Astray → ∃ fault, ((resolve host raw).run world).1 = .error (.config fault)) ∧
    (∀ document, raw.loaded = .ok document → document.Legible →
      ofDocument document ≠ .error .unwritable) := by
  refine ⟨fun able => (accounted_resolve able).trans accounted_iff, ?_, ?_, ?_, ?_⟩
  · intro astray accounted
    have told : ∀ failure, readNamed raw = .error failure → _ :=
      fun failure failed => accounted failure (resolve_fails_iff.mpr (.inl failed))
    exact accounted_iff.mp told astray
  · exact fun broken => resolve_fails_iff.mpr (.inl (readNamed_of_malformed broken))
  · rintro document entries loaded stands ⟨name, present, unknown⟩ straight
    cases read : ofDocument document with
    | ok config =>
      obtain ⟨members, standing, accepted⟩ := ofDocument_iff.mp read
      cases stands.symm.trans standing
      obtain ⟨key, known, named⟩ := (ofEntries_means accepted).1.known name present
      exact absurd named (unknown key known)
    | error fault =>
      have failed := readNamed_of_refused loaded read
      obtain ⟨reason, told⟩ | told := accounted_iff.mpr straight _ failed
      · exact ⟨reason, told ▸ resolve_fails_iff.mpr (.inl failed)⟩
      · cases fault <;> cases told
  · intro document _ legible refused
    cases ofDocument_fails document _ refused with
    | unwritable untold => exact untold legible

theorem resolve_accounted_of_unknown :
    let host : Host := { current := [], environment := [], temporaryNames := toString }
    let world : World := ⟨.empty, 0, [], []⟩
    let entries : Entries := [(.text "chartName", .text "nginx"), (.text "replicas", .boolean true)]
    let raw : RawConfig := .document (.map none entries)
    ¬ raw.Astray ∧
    (∃ name ∈ entries.map Prod.fst,
      ∀ key ∈ knownKeys ++ alternates.map Prod.fst, name ≠ .text key) ∧
    ∃ fault, ((resolve host raw).run world).1 = .error (.config fault) := by
  intro host world entries raw
  have legible : Value.Legible (.map none entries) := by
    refine Value.legible_map rfl ?_
    simp only [entries, List.forall_mem_cons]
    refine ⟨?_, ?_, fun _ present => absurd present List.not_mem_nil⟩
    all_goals constructor <;> intro part inside <;> cases inside <;> rfl
  have straight : ¬ raw.Astray := by
    rintro (⟨⟨⟩, -⟩ | ⟨⟨⟩, ⟨⟩, mixed⟩ | ⟨⟨⟩, refused⟩)
    · obtain ⟨key, present, nonText⟩ := mixed.mixed
      simp only [entries, List.map_cons, List.map_nil, List.mem_cons, List.not_mem_nil,
        or_false] at present
      obtain rfl | rfl := present <;> cases nonText
    · exact (resolve_accounted host raw world).2.2.2.2 _ rfl legible refused
  have unknown : ∃ name ∈ entries.map Prod.fst,
      ∀ key ∈ knownKeys ++ alternates.map Prod.fst, name ≠ .text key := by
    refine ⟨.text "replicas", by simp [entries], ?_⟩
    simp only [ne_eq, Value.text.injEq]
    decide
  exact ⟨straight, unknown, (resolve_accounted host raw world).2.2.2.1 _ _ rfl rfl unknown straight⟩

/-- A key that is a truth value is not told as a fault of the configuration, and neither is a day
that does not exist. -/
theorem resolve_not_accounted :
    let host : Host := { current := [], environment := [], temporaryNames := toString }
    let world : World := ⟨.empty, 0, [], []⟩
    let document : Value := .map none [(.boolean true, .text "x"), (.text "chartName", .text "nginx")]
    let stream : RawConfig := .stream (.text "releaseName: 2001-13-01")
    document.Legible ∧
    ((resolve host (.document document)).run world).1 = .error (.keyKind "bool") ∧
    ¬ Accounted ((resolve host (.document document)).run world).1 ∧
    ¬ Accounted ((resolve host stream).run world).1 := by
  intro host world document stream
  have legible : document.Legible := by
    refine Value.legible_map rfl ?_
    simp only [List.forall_mem_cons]
    refine ⟨?_, ?_, fun _ present => absurd present List.not_mem_nil⟩
    all_goals constructor <;> intro part inside <;> cases inside <;> rfl
  have refused : ((resolve host (.document document)).run world).1 =
      .error (.keyKind "bool") := rfl
  have broken : failure? stream.loaded = some (.scalar (.calendar .month)) := by
    decide +kernel +revert
  have failed := readNamed_of_fault (eq_error_of_failure? broken) (by decide)
  refine ⟨legible, refused, ?_, ?_⟩
  · rw [refused]
    intro accounted
    simpa using accounted _ rfl
  · intro accounted
    simpa using accounted _ (resolve_fails_iff.mpr (.inl failed))

end Config

end ChartManifests
