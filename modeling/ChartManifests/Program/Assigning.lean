import ChartManifests.Program.Calculation
/-!
Assignments in the rich shell: to parameters, to their items, and of whole lists and tables. What is
assigned to a parameter of whole numbers is worked out first.
-/

namespace ChartManifests.Program

open Shell.Calculation (Fault Place)

namespace Calculation

def target (state : State) (named : Place) : Place :=
  placeOf (state.referred 10 named.name) named.subscript

def key (state : State) (place : Place) : Except Fault (Option ItemKey × State) :=
  match plainKey? state place with
  | some key => .ok (some key, state)
  | none => do
    let (value, after) ← calculate state (place.subscript.getD "")
    .ok ((indexAt after place.name value).map ItemKey.index, after)

end Calculation

def combined (state : State) (integer appends : Bool) (old text : String) :
    Except Fault (String × State) :=
  if integer then do
    let (first, begun) ← if appends then calculate state old else .ok (0, state)
    let (second, after) ← calculate begun text
    .ok (toString (Shell.Arithmetic.wrapped (first + second)), after)
  else .ok (if appends then old ++ text else text, state)

def assignPlace (state : State) (named : Place) (appends : Bool) (text : String) :
    Except Fault State := do
  let place := Calculation.target state named
  if state.isFixed place.name then .error (.fixed place.name)
  else
    let (key?, known) ← Calculation.key state place
    match key? with
    | none => .error (.subscript place.text)
    | some key =>
      let old := ((known.contentOf place.name).bind fun content => content.item? key).getD ""
      let integer := (known.find place.name).any Parameter.integer
      let (value, after) ← combined known integer appends old text
      .ok (Calculation.stored after place key value)

structure Given where
  subscript : Option String
  appends : Bool
  value : String

def pairsOf : List Given → List Given
  | key :: value :: rest => ⟨some key.value, false, value.value⟩ :: pairsOf rest
  | [key] => [⟨some key.value, false, ""⟩]
  | [] => []

def assignItems (name : String) : State → Nat → List Given → Except Fault State
  | state, _, [] => .ok state
  | state, next, item :: rest => do
    let subscript := item.subscript.getD (toString next)
    let place : Place := ⟨name, some subscript⟩
    let (key?, _) ← Calculation.key state place
    let after ← assignPlace state place item.appends item.value
    assignItems name after (match key? with
      | some (.index number) => number + 1
      | _ => next + 1) rest

def assignList (state : State) (named : String) (appends : Bool) (items : List Given) :
    Except Fault State := do
  let name := state.referred 10 named
  if state.isFixed name then .error (.fixed name)
  else
    let isTable := state.isTable name
    let old := (state.contentOf name).getD (.list [])
    let begun := state.change name fun parameter =>
      { parameter with
        blank := false
        content := some (match isTable, appends, old with
          | true, true, content => content
          | true, false, _ => .table []
          | false, true, .text value => .list [(0, value)]
          | false, true, content => content
          | false, false, _ => .list []) }
    let next := ((begun.contentOf name).map Content.behind).getD 0
    let given := if isTable && items.all fun item => item.subscript.isNone then pairsOf items
      else items
    assignItems name begun next given

def State.shaped (state : State) (name : String) (table : Bool) : State :=
  state.change name fun parameter =>
    match parameter.content, table with
    | some (.list _), false | some (.table _), true => parameter
    | some (.text value), false => { parameter with content := some (.list [(0, value)]) }
    | some (.text value), true => { parameter with content := some (.table [("0", value)]) }
    | some (.table items), false =>
      { parameter with content := some (.list (items.zipIdx.map fun (entry, index) =>
        (index, entry.2))) }
    | some (.list _), true => { parameter with content := some (.table []) }
    | none, true => { parameter with content := some (.table []), blank := true }
    | none, false => { parameter with content := some (.list []), blank := true }

end ChartManifests.Program
