import ChartManifests.Proofs.Host.Writing
import ChartManifests.Proofs.Text.ByteForm
import ChartManifests.World
import Mathlib.Data.List.Infix
/-!
Where a path leads that meets no link: to the place that its names spell, one after the other. What
lies behind a place where nothing stands cannot be reached in this way.
-/

namespace ChartManifests

open Text

namespace Files

variable {files : Files} {through : Bool} {here goal : Location}
  {onLink : Location → String → List String → Except FileFault Location}

def descend (here : Location) (name : String) : Location :=
  if name = "." then here
  else if name = ".." then here.dropLast
  else here ++ [name]

/-- No link stands where steps from a place lead, up to the last of them. -/
def MeetsNoLink (files : Files) (here : Location) (steps : List String) : Prop :=
  ∀ front, front <+: steps → front ≠ [] → ∀ target,
    files.standing? (front.foldl descend here) ≠ some (.link target)

theorem MeetsNoLink.cons {name : String} {rest : List String}
    (unlinked : files.MeetsNoLink here (name :: rest)) :
    (∀ target, files.standing? (descend here name) ≠ some (.link target)) ∧
      files.MeetsNoLink (descend here name) rest := by
  constructor
  · exact unlinked [name] ⟨rest, rfl⟩ (List.cons_ne_nil _ _)
  · intro front begins _
    exact unlinked (name :: front) (List.cons_prefix_cons.mpr ⟨rfl, begins⟩) (List.cons_ne_nil _ _)

theorem walk_cons_ok {name : String} {rest : List String}
    (led : files.walk through onLink here (name :: rest) = .ok goal) :
    files.standing? here = some .directory ∧
      ((∀ target, files.standing? (descend here name) ≠ some (.link target)) →
        files.walk through onLink (descend here name) rest = .ok goal) := by
  unfold walk at led
  split at led
  next => cases led
  next standing =>
    refine ⟨standing, fun unlinked => ?_⟩
    split at led
    next => cases led
    next =>
      unfold descend at unlinked ⊢
      split at led
      next same => simpa only [same, if_true] using led
      next differs =>
        simp only [differs, if_false] at unlinked ⊢
        split at led
        next upward => simpa only [upward, if_true] using led
        next downward =>
          simp only [downward, if_false] at unlinked ⊢
          split at led
          next target linked => exact absurd linked (unlinked target)
          next => exact led
  next => cases led

theorem walk_unlinked {front rest : List String} : ∀ {here},
    files.MeetsNoLink here front → files.walk through onLink here (front ++ rest) = .ok goal →
      files.walk through onLink (front.foldl descend here) rest = .ok goal := by
  induction front with
  | nil => exact fun _ led => led
  | cons name front ih =>
    intro here unlinked led
    exact ih unlinked.cons.2 ((walk_cons_ok led).2 unlinked.cons.1)

theorem walk_of_none {names : List String} (nothing : files.standing? here = none)
    (led : files.walk through onLink here names = .ok goal) : goal = here := by
  cases names with
  | nil => exact (Except.ok.inj led).symm
  | cons name rest =>
    have standing := (walk_cons_ok led).1
    rw [nothing] at standing
    cases standing

theorem follow_walks (files : Files) (through : Bool) (count : Nat) :
    ∃ onLink, files.follow through count = files.walk through onLink := by
  cases count with
  | zero => exact ⟨_, rfl⟩
  | succ count => exact ⟨_, rfl⟩

end Files

namespace Path

def location (path : Path) : Location := path.resolved.map spelled

theorem descend_spelled {name : Text} (has : HasBytes name) (fits : Fits name) (way : List Text) :
    Files.descend (way.map spelled) (spelled name) = (step way name).map spelled := by
  have here : name ≠ ofString "." := by
    rintro rfl
    exact absurd fits.1 (by decide)
  have other : spelled name ≠ "." := mt (spelled_eq_iff rfl has).mp here
  have upward : spelled name = ".." ↔ name = up := spelled_eq_iff rfl has
  unfold Files.descend step
  rw [if_neg other]
  by_cases above : name = up
  · rw [if_pos (upward.mpr above), if_pos above, List.map_dropLast]
  · rw [if_neg (mt upward.mp above), if_neg above, List.map_append, List.map_singleton]

def Spellable (names : List Text) : Prop := ∀ name ∈ names, HasBytes name ∧ Fits name

theorem foldl_descend_spelled {names : List Text} (spellable : Spellable names) : ∀ way,
    (names.map spelled).foldl Files.descend (way.map spelled) =
      (names.foldl step way).map spelled := by
  induction names with
  | nil => exact fun _ => rfl
  | cons name rest ih =>
    obtain ⟨⟨has, fits⟩, others⟩ := List.forall_mem_cons.mp spellable
    intro way
    rw [List.map_cons, List.foldl_cons, List.foldl_cons, descend_spelled has fits, ih others]

theorem hasBytes_of_mem_splitAt {text part : Text} (has : HasBytes text)
    (present : part ∈ splitAt slash text) : HasBytes part := by
  intro point inside
  rw [← joinWith_splitAt slash text] at has
  exact has point (mem_joinWith present inside)

theorem steps_of_splitAt {text last : Text} {parts : List Text} (has : HasBytes text)
    (split : splitAt slash text = parts ++ [last]) (some : last ≠ []) :
    Files.steps (spelled text) = (parts.filter (· ≠ [])).map spelled ++ [spelled last] := by
  have empty : ∀ part ∈ parts ++ [last], (spelled part = "" ↔ part = []) := by
    intro part present
    exact spelled_eq_iff rfl (hasBytes_of_mem_splitAt has (split ▸ present))
  have cut : (splitAt Files.separator (spelled text).toList).map String.ofList =
      (parts ++ [last]).map spelled := by
    rw [spelled, String.toList_ofList, splitAt_spelling (by decide) has, List.map_map, ← split]
    rfl
  have ending : ((parts ++ [last]).map spelled).getLast? ≠ Option.some "" := by
    rw [List.map_append, List.map_singleton, List.getLast?_concat, ne_eq, Option.some_inj,
      empty last (by simp)]
    exact some
  have kept : ((parts ++ [last]).map spelled).filter (· ≠ "") =
      ((parts ++ [last]).filter (· ≠ [])).map spelled := by
    rw [List.filter_map]
    exact congrArg _ (List.filter_congr fun part present => by simp [empty part present])
  simp only [Files.steps, cut, ending, false_and, if_false, List.append_nil, kept]
  simp [List.filter_append, some]

theorem spellable_names {path : Path} (proper : path.Proper) (named : path.names ≠ [])
    (has : HasBytes path.text) : Spellable path.names := by
  intro name present
  refine ⟨hasBytes_of_mem_splitAt has ?_, proper name present⟩
  rw [splitAt_text proper named]
  exact List.mem_append_right _ present

theorem steps_spelled {path : Path} (proper : path.Proper) (named : path.names ≠ [])
    (has : HasBytes path.text) : Files.steps (spelled path.text) = path.names.map spelled := by
  have split := splitAt_text proper named
  obtain ⟨front, last, names⟩ : ∃ front last, path.names = front ++ [last] :=
    ⟨_, _, (List.dropLast_append_getLast named).symm⟩
  have fitting : ∀ name ∈ front ++ [last], Fits name := names ▸ proper
  have rootless : ((originText path.origin).map fun _ => ([] : Text)).filter (· ≠ []) = [] := by
    simp
  have kept : front.filter (· ≠ []) = front :=
    List.filter_eq_self.mpr fun name present => by
      simpa using (fitting name (List.mem_append_left _ present)).ne_nil
  rw [names, ← List.append_assoc] at split
  rw [steps_of_splitAt has split (fitting last (by simp)).ne_nil, List.filter_append, rootless,
    kept, List.nil_append, names, List.map_append, List.map_singleton]

theorem origin_spelled {text : Text} (has : HasBytes text) (current : Location) :
    Files.origin current (spelled text) = if IsAbsolute text then [] else current := by
  have slashed : (spelling text).head? = some Files.separator ↔ IsAbsolute text :=
    head?_spelling (by decide) has
  rw [Files.origin, spelled, String.toList_ofList]
  by_cases absolute : IsAbsolute text
  · rw [if_pos absolute, if_pos (slashed.mpr absolute)]
  · rw [if_neg absolute, if_neg (mt slashed.mp absolute)]

end Path

/-- The place that a path leads to on a host; nothing need stand there. -/
def Host.LeadsTo (host : Host) (files : Files) (path : Text) (goal : Location) : Prop :=
  ∃ name, path.external = .ok name ∧ files.locate host.current name = .ok goal

namespace Files

/-- No link stands where names lead from the root, up to the last of them. -/
def Unlinked (files : Files) (names : List Text) : Prop :=
  ∀ front, front <+: names → front ≠ [] → ∀ target,
    files.standing? ((front.foldl Path.step []).map spelled) ≠ some (.link target)

instance (files : Files) (names : List Text) : Decidable (files.Unlinked names) :=
  decidable_of_iff (∀ front ∈ names.inits, front ≠ [] →
      (match files.standing? ((front.foldl Path.step []).map spelled) with
        | some (.link _) => false
        | _ => true) = true) (by
    simp only [List.mem_inits]
    refine forall_congr' fun front => forall_congr' fun _ => forall_congr' fun _ => ?_
    split
    next target linked => simp [linked]
    next unlinked => simpa using unlinked)

theorem Unlinked.meetsNoLink {files : Files} {names : List Text} (spellable : Path.Spellable names)
    (unlinked : files.Unlinked names) : files.MeetsNoLink [] (names.map spelled) := by
  intro front begins named target
  obtain ⟨own, within, rfl⟩ := List.prefix_map_iff.mp begins
  have shorter : Path.Spellable own := fun name present => spellable name (within.subset present)
  have spells := Path.foldl_descend_spelled shorter []
  rw [List.map_nil] at spells
  rw [spells]
  exact unlinked own within (mt List.map_eq_nil_iff.mpr named) target

end Files

section Leads

variable {host : Host} {files : Files} {path : Path} {goal : Location}

theorem Host.LeadsTo.walks {front rest : List Text} (proper : path.Proper)
    (rooted : path.origin = .root) (names : path.names = front ++ rest) (named : path.names ≠ [])
    (unlinked : files.Unlinked front) (leads : host.LeadsTo files path.text goal) :
    ∃ onLink, files.walk true onLink ((front.foldl Path.step []).map spelled)
      (rest.map spelled) = .ok goal := by
  obtain ⟨name, formed, located⟩ := leads
  obtain ⟨has, rfl⟩ := external_spelled formed
  have spellable := Path.spellable_names proper named has
  have absolute := proper.isAbsolute_text.mpr (by rw [rooted]; nofun)
  have begun : Path.Spellable front :=
    fun name present => spellable name (names ▸ List.mem_append_left rest present)
  have spells := Path.foldl_descend_spelled begun []
  rw [List.map_nil] at spells
  rw [← spells]
  obtain ⟨-, -, followed⟩ := Files.locate_iff.mp located
  obtain ⟨onLink, follows⟩ := files.follow_walks true Files.longestChain
  rw [follows, Path.origin_spelled has, if_pos absolute, Path.steps_spelled proper named has,
    names, List.map_append] at followed
  exact ⟨onLink, Files.walk_unlinked (unlinked.meetsNoLink begun) followed⟩

theorem Host.LeadsTo.eq_location (proper : path.Proper) (rooted : path.origin = .root)
    (named : path.names ≠ []) (unlinked : files.Unlinked path.names)
    (leads : host.LeadsTo files path.text goal) : goal = path.location := by
  obtain ⟨_, led⟩ := leads.walks proper rooted (List.append_nil _).symm named unlinked
  exact (Except.ok.inj led).symm

theorem Host.LeadsTo.eq_of_none {outer : Path} (proper : path.Proper) (rooted : path.origin = .root)
    (begins : outer.names <+: path.names) (named : path.names ≠ [])
    (unlinked : files.Unlinked outer.names) (nothing : files.standing? outer.location = none)
    (leads : host.LeadsTo files path.text goal) : goal = outer.location := by
  obtain ⟨rest, names⟩ := begins
  obtain ⟨_, led⟩ := leads.walks proper rooted names.symm named unlinked
  exact Files.walk_of_none nothing led

end Leads

end ChartManifests
