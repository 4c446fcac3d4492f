import ChartManifests.Proofs.Config.Faults
import Mathlib.Data.List.Find
import Mathlib.Data.List.Nodup
/-!
Documents that say the same in another way: with their entries in another order, or with the other
spelling of an option. They are read as the same configuration or refused for the same fault,
however many faults they have. An option in two spellings is refused whatever stands under them.
-/

namespace ChartManifests

namespace Text

theorem isUpTo_cons {first other : CodePoint} {rest others : Text} :
    isUpTo (first :: rest) (other :: others) = true ↔
      first.number < other.number ∨ first = other ∧ rest.isUpTo others = true := by
  simp [isUpTo]

theorem isUpTo_total (left right : Text) : (left.isUpTo right || right.isUpTo left) = true := by
  rw [Bool.or_eq_true]
  induction left generalizing right with
  | nil => exact Or.inl rfl
  | cons first rest ih =>
    cases right with
    | nil => exact Or.inr rfl
    | cons other others =>
      simp only [isUpTo_cons]
      obtain less | same | more := Nat.lt_trichotomy first.number other.number
      · exact Or.inl (Or.inl less)
      · have equal : first = other := by
          cases first
          cases other
          cases same
          rfl
        exact (ih others).imp (fun up => Or.inr ⟨equal, up⟩) fun up => Or.inr ⟨equal.symm, up⟩
      · exact Or.inr (Or.inl more)

theorem isUpTo_antisymm {left right : Text} (up : left.isUpTo right = true)
    (down : right.isUpTo left = true) : left = right := by
  induction left generalizing right with
  | nil =>
    cases right with
    | nil => rfl
    | cons => cases down
  | cons first rest ih =>
    cases right with
    | nil => cases up
    | cons other others =>
      rw [isUpTo_cons] at up down
      obtain less | ⟨rfl, up⟩ := up
      · obtain more | ⟨rfl, -⟩ := down <;> omega
      · obtain more | ⟨-, down⟩ := down
        · omega
        · rw [ih up down]

theorem isUpTo_trans (left middle right : Text) (up : left.isUpTo middle = true)
    (on : middle.isUpTo right = true) : left.isUpTo right = true := by
  induction left generalizing middle right with
  | nil => rfl
  | cons first rest ih =>
    cases middle with
    | nil => cases up
    | cons between others =>
      cases right with
      | nil => cases on
      | cons last behind =>
        rw [isUpTo_cons] at up on ⊢
        obtain less | ⟨rfl, up⟩ := up
        · obtain more | ⟨rfl, -⟩ := on
          · exact Or.inl (Nat.lt_trans less more)
          · exact Or.inl less
        · exact on.imp id fun ⟨same, on⟩ => ⟨same, ih _ _ up on⟩

theorem mergeSort_perm_eq {names others : List Text} (same : names.Perm others) :
    names.mergeSort isUpTo = others.mergeSort isUpTo := by
  refine List.Perm.eq_of_pairwise (fun _ _ _ _ => isUpTo_antisymm)
    (List.pairwise_mergeSort isUpTo_trans isUpTo_total _)
    (List.pairwise_mergeSort isUpTo_trans isUpTo_total _) ?_
  exact (names.mergeSort_perm isUpTo).trans (same.trans (others.mergeSort_perm isUpTo).symm)

end Text

namespace Entries

structure Keyed (entries : Entries) : Prop where
  texts : ∀ name ∈ entries.map Prod.fst, ∃ key, name = .text key
  once : (entries.map Prod.fst).Nodup

def Respells (one other : String) : Prop :=
  (one, other) ∈ Config.alternates ∨ (other, one) ∈ Config.alternates

/-- Entries in another order, or with the other spelling of an option where that is not in use. -/
inductive Restated : Entries → Entries → Prop
  | reordered {entries others : Entries} : entries.Perm others → Restated entries others
  | respelled {front back : Entries} {one other : String} (value : Value) :
      Respells one other → .text other ∉ (front ++ back).map Prod.fst →
      Restated (front ++ (.text one, value) :: back) (front ++ (.text other, value) :: back)
  | trans {entries between others : Entries} :
      Restated entries between → Restated between others → Restated entries others

variable {entries others : Entries}

theorem Keyed.perm (keyed : entries.Keyed) (same : entries.Perm others) : others.Keyed :=
  ⟨fun name present => keyed.texts name ((same.map Prod.fst).mem_iff.mpr present),
    (same.map Prod.fst).nodup_iff.mp keyed.once⟩

theorem Keyed.lookup_iff (keyed : entries.Keyed) {key : Text} {value : Value} :
    entries.lookup key = some value ↔ (.text key, value) ∈ entries := by
  refine ⟨mem_of_lookup, fun present => ?_⟩
  induction entries with
  | nil => cases present
  | cons entry rest ih =>
    rw [lookup_cons]
    obtain ⟨fresh, once⟩ := List.nodup_cons.mp keyed.once
    obtain rfl | behind := List.mem_cons.mp present
    · exact if_pos rfl
    · have apart : entry.1.text? ≠ some key := fun same =>
        fresh (Value.text?_eq_some.mp same ▸ List.mem_map_of_mem (f := Prod.fst) behind)
      rw [if_neg apart]
      exact ih ⟨fun name inside => keyed.texts name (List.mem_cons_of_mem _ inside), once⟩ behind

theorem Keyed.lookup_perm (keyed : entries.Keyed) (same : entries.Perm others) (key : Text) :
    entries.lookup key = others.lookup key := by
  ext value
  rw [keyed.lookup_iff, (keyed.perm same).lookup_iff, same.mem_iff]

theorem Keyed.perm_of_lookup (keyed : entries.Keyed) (alsoKeyed : others.Keyed)
    (same : ∀ key, entries.lookup key = others.lookup key) : entries.Perm others := by
  refine (List.perm_ext_iff_of_nodup keyed.once.of_map alsoKeyed.once.of_map).mpr fun entry => ?_
  constructor
  · intro present
    obtain ⟨key, named⟩ := keyed.texts _ (List.mem_map_of_mem present)
    obtain ⟨name, value⟩ := entry
    cases named
    exact alsoKeyed.lookup_iff.mp ((same key).symm.trans (keyed.lookup_iff.mpr present))
  · intro present
    obtain ⟨key, named⟩ := alsoKeyed.texts _ (List.mem_map_of_mem present)
    obtain ⟨name, value⟩ := entry
    cases named
    exact keyed.lookup_iff.mp ((same key).trans (alsoKeyed.lookup_iff.mpr present))

def isTwice (entries : Entries) (spelling : String × String) : Bool :=
  entries.has spelling.1 && entries.has spelling.2

/-- Entries that give the same to every option, and two spellings to the same ones. -/
structure Agree (entries others : Entries) : Prop where
  twice : ∀ spelling ∈ Config.alternates, entries.isTwice spelling = others.isTwice spelling
  given : ∀ key : Text, (∀ spelling ∈ Config.alternates, key ≠ spelling.1) →
    entries.given key = others.given key

theorem Agree.symm (agree : entries.Agree others) : others.Agree entries :=
  ⟨fun spelling known => (agree.twice spelling known).symm,
    fun key own => (agree.given key own).symm⟩

theorem Agree.trans {between : Entries} (first : entries.Agree between)
    (next : between.Agree others) : entries.Agree others :=
  ⟨fun spelling known => (first.twice spelling known).trans (next.twice spelling known),
    fun key own => (first.given key own).trans (next.given key own)⟩

theorem Keyed.agree_perm (keyed : entries.Keyed) (same : entries.Perm others) :
    entries.Agree others := by
  have lookups := keyed.lookup_perm same
  constructor
  · intro spelling _
    simp only [isTwice, has, lookups]
  · intro key _
    simp only [Entries.given, lookups]

theorem agree_alternate {rest : Entries} {spelling : String × String} (value : Value)
    (known : spelling ∈ Config.alternates) (noAlternate : rest.lookup spelling.1 = none)
    (noKey : rest.lookup spelling.2 = none) :
    Agree ((.text spelling.1, value) :: rest) ((.text spelling.2, value) :: rest) := by
  have same : ∀ one other : String, Text.ofString one = Text.ofString other ↔ one = other :=
    fun _ _ => ⟨Text.ofString_injective, congrArg _⟩
  simp only [Config.alternates, List.mem_cons, List.not_mem_nil, or_false] at known
  constructor
  · simp only [Config.alternates, List.forall_mem_cons]
    obtain rfl | rfl := known <;>
      simp [isTwice, has, lookup_cons, Value.text?, same, noAlternate, noKey]
  · intro key own
    have notUrl : Text.ofString "chartRepoURL" ≠ key :=
      (own ("chartRepoURL", "chartRepoUrl") (by decide)).symm
    have notArgs : Text.ofString "chartArgs" ≠ key :=
      (own ("chartArgs", "extraArgs") (by decide)).symm
    by_cases url : Text.ofString "chartRepoUrl" = key
    · subst url
      obtain rfl | rfl := known <;>
        simp [Entries.given, Config.alternates, lookup_cons, Value.text?, same, noAlternate, noKey]
    · by_cases extra : Text.ofString "extraArgs" = key
      · subst extra
        obtain rfl | rfl := known <;>
          simp [Entries.given, Config.alternates, lookup_cons, Value.text?, same, noAlternate,
            noKey]
      · obtain rfl | rfl := known <;>
          simp [Entries.given, Config.alternates, lookup_cons, Value.text?, url, extra, notUrl,
            notArgs]

theorem isTwice_iff {spelling : String × String} :
    entries.isTwice spelling = true ↔
      entries.has spelling.1 = true ∧ entries.has spelling.2 = true := by
  rw [isTwice, Bool.and_eq_true]

theorem spelledOnce_iff_isTwice :
    entries.SpelledOnce ↔ ∀ spelling ∈ Config.alternates, entries.isTwice spelling = false := by
  simp only [SpelledOnce, ← isTwice_iff, Bool.not_eq_true]

theorem Restated.agree (restated : Restated entries others) :
    entries.Keyed → others.Keyed ∧ entries.Agree others := by
  induction restated with
  | reordered same => exact fun keyed => ⟨keyed.perm same, keyed.agree_perm same⟩
  | @respelled front back one other value respells unused =>
    intro keyed
    have ahead := keyed.perm List.perm_middle
    obtain ⟨fresh, once⟩ := List.nodup_cons.mp ahead.once
    have alsoAhead : Keyed ((.text other, value) :: (front ++ back)) := by
      refine ⟨List.forall_mem_cons.mpr ⟨⟨other, rfl⟩, fun name inside => ?_⟩,
        List.nodup_cons.mpr ⟨unused, once⟩⟩
      exact ahead.texts name (List.mem_cons_of_mem _ inside)
    have absent : ∀ name : Text, Value.text name ∉ (front ++ back).map Prod.fst →
        lookup (front ++ back) name = none := by
      intro name missing
      rw [mem_keys_iff, has, Option.not_isSome_iff_eq_none] at missing
      exact missing
    have heads : Agree ((.text one, value) :: (front ++ back))
        ((.text other, value) :: (front ++ back)) := by
      obtain known | known := respells
      · exact agree_alternate value known (absent one fresh) (absent other unused)
      · exact (agree_alternate value known (absent other unused) (absent one fresh)).symm
    have behind := alsoAhead.agree_perm List.perm_middle.symm
    exact ⟨alsoAhead.perm List.perm_middle.symm,
      ((keyed.agree_perm List.perm_middle).trans heads).trans behind⟩
  | trans _ _ ih next =>
    intro keyed
    obtain ⟨between, first⟩ := ih keyed
    obtain ⟨last, second⟩ := next between
    exact ⟨last, first.trans second⟩

theorem Keyed.respelled (keyed : entries.Keyed) {alternate key : String}
    (once : entries.isTwice (alternate, key) = false) :
    (entries.respelled alternate key).Keyed := by
  unfold Entries.respelled
  cases found : entries.lookup alternate with
  | none => exact keyed
  | some value =>
    have kept : ((entries.without alternate).map Prod.fst).Sublist (entries.map Prod.fst) :=
      List.filter_sublist.map _
    have absent : Value.text key ∉ (entries.without alternate).map Prod.fst := by
      intro present
      have there := mem_keys_iff.mp (kept.subset present)
      have other : entries.has alternate = true := by rw [has, found]; rfl
      exact Bool.false_ne_true (once.symm.trans (isTwice_iff.mpr ⟨other, there⟩))
    constructor
    · intro name present
      rw [List.map_append, List.mem_append] at present
      obtain stays | own := present
      · exact keyed.texts name (kept.subset stays)
      · exact ⟨key, List.mem_singleton.mp own⟩
    · rw [List.map_append, List.map_singleton]
      simpa using (kept.nodup keyed.once).concat absent

theorem isTwice_respelled (once : entries.isTwice ("chartRepoURL", "chartRepoUrl") = false) :
    (entries.respelled "chartRepoURL" "chartRepoUrl").isTwice ("chartArgs", "extraArgs") =
      entries.isTwice ("chartArgs", "extraArgs") := by
  have apart : ¬ (entries.has "chartRepoURL" = true ∧ entries.has "chartRepoUrl" = true) :=
    fun both => Bool.false_ne_true (once.symm.trans (isTwice_iff.mpr both))
  have differs : Text.ofString "chartRepoURL" ≠ "chartRepoUrl" := by decide
  have lookups := lookup_respelled differs apart
  have unchanged : ∀ name : Text, name ≠ "chartRepoURL" → name ≠ "chartRepoUrl" →
      (entries.respelled "chartRepoURL" "chartRepoUrl").lookup name = entries.lookup name := by
    intro name notAlternate notKey
    rw [lookups, if_neg notAlternate, if_neg notKey]
  simp only [isTwice, has, unchanged _ (by decide : Text.ofString "chartArgs" ≠ _) (by decide),
    unchanged _ (by decide : Text.ofString "extraArgs" ≠ _) (by decide)]

theorem Keyed.spelled (keyed : entries.Keyed) (once : entries.SpelledOnce) :
    entries.spelled.Keyed := by
  rw [spelledOnce_iff_isTwice] at once
  have first := once ("chartRepoURL", "chartRepoUrl") (by decide)
  refine (keyed.respelled first).respelled ?_
  rw [isTwice_respelled first]
  exact once ("chartArgs", "extraArgs") (by decide)

theorem lookup_spelled_alternate (once : entries.SpelledOnce) :
    ∀ spelling ∈ Config.alternates, entries.spelled.lookup spelling.1 = none := by
  obtain ⟨first, next⟩ := spelledOnce_iff.mp once
  have apart : Text.ofString "chartRepoURL" ≠ "chartRepoUrl" := by decide
  have last : Text.ofString "chartArgs" ≠ "extraArgs" := by decide
  simp only [Config.alternates, List.forall_mem_cons, spelled, lookup_respelled last next,
    lookup_respelled apart first]
  refine ⟨?_, rfl, List.forall_mem_nil _⟩
  rw [if_neg (by decide), if_neg (by decide)]
  rfl

theorem Agree.spelled_perm (agree : entries.Agree others) (keyed : entries.Keyed)
    (alsoKeyed : others.Keyed) (once : entries.SpelledOnce) :
    others.SpelledOnce ∧ entries.spelled.Perm others.spelled := by
  have alsoOnce : others.SpelledOnce := by
    rw [spelledOnce_iff_isTwice] at once ⊢
    exact fun spelling known => (agree.twice spelling known).symm.trans (once spelling known)
  refine ⟨alsoOnce, (keyed.spelled once).perm_of_lookup (alsoKeyed.spelled alsoOnce) fun key => ?_⟩
  by_cases alternate : ∃ spelling ∈ Config.alternates, key = spelling.1
  · obtain ⟨spelling, known, rfl⟩ := alternate
    rw [lookup_spelled_alternate once spelling known,
      lookup_spelled_alternate alsoOnce spelling known]
  · have own : ∀ spelling ∈ Config.alternates, key ≠ spelling.1 :=
      fun spelling known same => alternate ⟨spelling, known, same⟩
    have notUrl := own ("chartRepoURL", "chartRepoUrl") (by decide)
    have notArgs := own ("chartArgs", "extraArgs") (by decide)
    rw [lookup_spelled once notUrl notArgs, lookup_spelled alsoOnce notUrl notArgs,
      agree.given key own]

end Entries

namespace Config

open Entries

variable {entries others : Entries}

theorem rename_eq (entries : Entries) (alternate key : String) :
    rename entries alternate key =
      if entries.isTwice (alternate, key) then .error (.invalid (.bothSpellings alternate key))
      else .ok (entries.respelled alternate key) := by
  unfold rename respelled
  cases found : entries.lookup alternate with
  | none => simp [isTwice, has, found]
  | some value =>
    simp only [isTwice, has, found, Option.isSome_some, Bool.true_and]
    rfl

theorem renameAll_eq (entries : Entries) :
    renameAll entries = match alternates.find? entries.isTwice with
      | some spelling => .error (.invalid (.bothSpellings spelling.1 spelling.2))
      | none => .ok entries.spelled := by
  simp only [renameAll, alternates, List.foldlM_cons, List.foldlM_nil, rename_eq, List.find?_cons,
    List.find?_nil]
  cases first : entries.isTwice ("chartRepoURL", "chartRepoUrl") with
  | true => rfl
  | false =>
    simp only [Bool.false_eq_true, if_false, bind, Except.bind, isTwice_respelled first]
    cases entries.isTwice ("chartArgs", "extraArgs") <;> rfl

theorem checkKeys_perm (keyed : entries.Keyed) (same : entries.Perm others) :
    checkKeys entries = checkKeys others := by
  have keys := (same.map Prod.fst).filter fun key => !isKnown key
  have texts : ∀ {members : Entries}, members.Keyed →
      ((members.map Prod.fst).filter fun key => !isKnown key).find?
        (fun key => key.text?.isNone) = none := by
    intro members membersKeyed
    refine List.find?_eq_none.mpr fun key unknown => ?_
    obtain ⟨content, rfl⟩ := membersKeyed.texts key (List.mem_of_mem_filter unknown)
    exact Bool.false_ne_true
  simp only [checkKeys, texts keyed, texts (keyed.perm same), keys.isEmpty_eq,
    Text.mergeSort_perm_eq (keys.filterMap Value.text?)]

theorem ofEntries_perm {renamed spelled : Entries} (keyed : renamed.Keyed)
    (same : renamed.Perm spelled) (first : renameAll entries = .ok renamed)
    (second : renameAll others = .ok spelled) : ofEntries entries = ofEntries others := by
  have lookups := keyed.lookup_perm same
  have settings : readSetting renamed = readSetting spelled := by
    funext option
    simp only [readSetting, lookups]
  have written : readWritten renamed = readWritten spelled := by
    funext key
    simp only [readWritten, lookups]
  simp only [ofEntries, first, second, bind, Except.bind, settings, written, readExtraArgs,
    readMetadata, lookups, checkKeys_perm keyed same]

theorem ofEntries_restated (keyed : entries.Keyed) (restated : Restated entries others) :
    ofEntries entries = ofEntries others := by
  obtain ⟨alsoKeyed, agree⟩ := restated.agree keyed
  by_cases once : entries.SpelledOnce
  · obtain ⟨alsoOnce, same⟩ := agree.spelled_perm keyed alsoKeyed once
    exact ofEntries_perm (keyed.spelled once) same (renameAll_iff.mpr ⟨once, rfl⟩)
      (renameAll_iff.mpr ⟨alsoOnce, rfl⟩)
  · -- Both are refused for the same option, the first one that stands under two keys.
    have twice : alternates.find? entries.isTwice = alternates.find? others.isTwice :=
      List.find?_congr agree.twice
    obtain ⟨spelling, found⟩ : ∃ spelling, alternates.find? entries.isTwice = some spelling := by
      rw [← Option.isSome_iff_exists, List.find?_isSome]
      simpa [spelledOnce_iff_isTwice] using once
    simp only [ofEntries, renameAll_eq, ← twice, found, bind, Except.bind]

theorem readDocument_twice {document : Value} {spelling : String × String}
    (stands : document.entries? = some entries) (known : spelling ∈ alternates)
    (twice : entries.isTwice spelling = true) :
    ∃ first ∈ alternates, entries.isTwice first = true ∧
      readDocument document = .error (.config (.bothSpellings first.1 first.2)) := by
  obtain ⟨first, found⟩ : ∃ first, alternates.find? entries.isTwice = some first := by
    rw [← Option.isSome_iff_exists, List.find?_isSome]
    exact ⟨spelling, known, twice⟩
  have refused : ofEntries entries = .error (.invalid (.bothSpellings first.1 first.2)) := by
    simp only [ofEntries, renameAll_eq, found, bind, Except.bind]
  refine ⟨first, List.mem_of_find?_eq_some found, List.find?_some found, ?_⟩
  cases document with
  | null => cases stands; simp only [readDocument, ofDocument, refused, mapError_error, failureOf]
  | map anchor members =>
    cases stands
    simp only [readDocument, ofDocument, refused, mapError_error, failureOf]
  | _ => cases stands

/-- If a fault names unknown keys, it names them in the order of their code points. -/
def InOrder (fault : DocumentFault) : Prop :=
  ∀ keys, fault = .invalid (.unknownKeys keys) →
    keys.Pairwise fun first next => first.isUpTo next = true

theorem ofDocument_inOrder (document : Value) : FailsOnly InOrder (ofDocument document) := by
  have others : ∀ fault, (∀ keys, fault ≠ .unknownKeys keys) → InOrder (.invalid fault) := by
    rintro fault other keys ⟨⟩
    exact absurd rfl (other keys)
  have sorted : ∀ names : List Text,
      InOrder (.invalid (.unknownKeys (names.mergeSort Text.isUpTo))) := by
    rintro names _ ⟨⟩
    exact List.pairwise_mergeSort Text.isUpTo_trans Text.isUpTo_total names
  unfold ofDocument
  split
  next => exact ofEntries_fails others sorted (fun _ _ => nofun) (fun _ _ _ => nofun)
  next => exact ofEntries_fails others sorted (fun _ _ => nofun) (fun _ _ _ => nofun)
  next => exact .error (refusal_ways others nofun fun _ => nofun)

/-- Documents that say the same in another order or with other spellings, each key once, are read as
the same configuration or refused with the same failure, whatever else is wrong with them; unknown
keys are named in the order of their code points. A document with both spellings of an option is
refused for such an option, whatever the values are. -/
theorem readDocument_restated :
    (∀ (anchor other : Option Nat) (entries others : Entries), entries.Keyed →
      Restated entries others →
      readDocument (.map anchor entries) = readDocument (.map other others)) ∧
    (∀ document keys, readDocument document = .error (.config (.unknownKeys keys)) →
      keys.Pairwise fun first next => first.isUpTo next = true) ∧
    ∀ document entries, document.entries? = some entries → ∀ spelling ∈ alternates,
      entries.has spelling.1 = true → entries.has spelling.2 = true →
      ∃ first ∈ alternates, entries.has first.1 = true ∧ entries.has first.2 = true ∧
        readDocument document = .error (.config (.bothSpellings first.1 first.2)) := by
  refine ⟨?_, ?_, ?_⟩
  · intro anchor other entries others keyed restated
    simp only [readDocument, ofDocument, ofEntries_restated keyed restated]
  · intro document keys refused
    cases read : ofDocument document with
    | ok config => simp [readDocument, read, mapError_ok] at refused
    | error fault =>
      simp only [readDocument, read, mapError_error, Except.error.injEq] at refused
      cases fault with
      | invalid reason =>
        cases refused
        exact ofDocument_inOrder document _ read keys rfl
      | keyKind kind => cases refused
      | unwritable => cases refused
  · intro document entries stands spelling known one other
    obtain ⟨first, listed, twice, refused⟩ :=
      readDocument_twice stands known (isTwice_iff.mpr ⟨one, other⟩)
    exact ⟨first, listed, (isTwice_iff.mp twice).1, (isTwice_iff.mp twice).2, refused⟩

/-- Two unknown keys and an identity that is none, with the address of a repository in one spelling
and in the other; and arguments under both of their keys. -/
theorem readDocument_restated_of_unknown :
    let entries : Entries := [(.text "zone", .null), (.text "chartRepoURL", .text "charts"),
      (.text "metadata", .boolean true), (.text "app", .null)]
    let others : Entries := [(.text "app", .null), (.text "metadata", .boolean true),
      (.text "chartRepoUrl", .text "charts"), (.text "zone", .null)]
    let both : Entries := [(.text "extraArgs", .null), (.text "chartArgs", .null)]
    let unknown : List Text := ["app", "zone"]
    entries.Keyed ∧ Restated entries others ∧
    readDocument (.map none entries) = readDocument (.map none others) ∧
    readDocument (.map none others) = .error (.config (.unknownKeys unknown)) ∧
    (unknown.Pairwise fun first next => first.isUpTo next = true) ∧
    both.has "chartArgs" = true ∧ both.has "extraArgs" = true ∧
    ∃ first ∈ alternates, both.has first.1 = true ∧ both.has first.2 = true ∧
      readDocument (.map none both) = .error (.config (.bothSpellings first.1 first.2)) := by
  intro entries others both unknown
  have keyed : entries.Keyed := by
    refine ⟨?_, ?_⟩
    · simp only [entries, List.map_cons, List.map_nil, List.forall_mem_cons]
      exact ⟨⟨_, rfl⟩, ⟨_, rfl⟩, ⟨_, rfl⟩, ⟨_, rfl⟩, nofun⟩
    · have distinct : ["zone", "chartRepoURL", "metadata", "app"].Nodup := by decide
      exact distinct.map (f := fun key => Value.text (Text.ofString key))
        fun _ _ same => Text.ofString_injective (Value.text.inj same)
  have restated : Restated entries others := by
    have unused : Value.text (Text.ofString "chartRepoUrl") ∉
        (entries.take 1 ++ entries.drop 2).map Prod.fst := by
      simp only [entries, List.take_succ_cons, List.take_zero, List.drop_succ_cons, List.drop_zero,
        List.singleton_append, List.map_cons, List.map_nil, List.mem_cons, Value.text.injEq,
        List.not_mem_nil, or_false]
      decide
    have respells : Respells "chartRepoURL" "chartRepoUrl" := Or.inl (by decide)
    exact .trans (.respelled (.text "charts") respells unused)
      (.reordered (List.reverse_perm _).symm)
  have refused : readDocument (.map none others) = .error (.config (.unknownKeys unknown)) := by
    have sorted : unknown.mergeSort Text.isUpTo = unknown :=
      List.mergeSort_of_pairwise (by decide)
    rw [← sorted]
    rfl
  exact ⟨keyed, restated, readDocument_restated.1 none none entries others keyed restated, refused,
    readDocument_restated.2.1 _ _ refused, rfl, rfl,
    readDocument_restated.2.2 _ both rfl ("chartArgs", "extraArgs") (by decide) rfl rfl⟩

end Config

end ChartManifests
