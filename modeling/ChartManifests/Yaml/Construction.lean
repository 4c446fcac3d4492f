import ChartManifests.Value.Key
import ChartManifests.Yaml.Graph
import ChartManifests.Yaml.Scalar
/-!
What the nodes of a document denote.

Collections are filled in the order in which they are first met: a collection's members are all
met before the next collection is filled. Of several faults in a document the one that is met first
is reported.

The entries of a mapping that is merged into another one come first; an entry of the other one
with the same key replaces the value in place.
-/

namespace ChartManifests.Yaml

/-- What a node denotes. The members of a collection are numbers of nodes; keys have no members
and are values themselves. -/
inductive Denoted
  | leaf (value : Value)
  | list (items : List NodeId)
  | set (members : List Value)
  | map (entries : List (Value × NodeId))
  | pairs (entries : List (NodeId × NodeId))
deriving Inhabited

/-- A document whose nodes are being given their meaning: `waiting` lists the collections that
were met and are still to be filled. -/
structure Construction where
  graph : Graph
  denoted : Array (Option Denoted)
  waiting : List NodeId

abbrev Constructing := StateT Construction (Except Fault)

namespace Construction

def malformed {α : Type} : Constructing α := throw .malformed

def content (id : NodeId) : Constructing Content := do
  match (← get).graph.content? id with
  | some content => pure content
  | none => malformed

def tag (id : NodeId) : Constructing Tag := do pure ((← get).graph.tag id)

def denote (id : NodeId) (meaning : Denoted) : Constructing Unit :=
  modify fun state => { state with denoted := state.denoted.setIfInBounds id (some meaning) }

def setEntries (id : NodeId) (entries : List (NodeId × NodeId)) : Constructing Unit :=
  modify fun state => { state with graph := state.graph.setContent id (.mapping entries) }

def scalarText : Nat → NodeId → Constructing Text
  | 0, _ => malformed
  | fuel + 1, id => do
    match ← content id with
    | .scalar text => pure text
    | .sequence _ => malformed
    | .mapping entries =>
      let state ← get
      match entries.find? fun entry => state.graph.tag entry.1 = .value with
      | some entry => scalarText fuel entry.2
      | none => malformed

def scalarValue (tag : Tag) (id : NodeId) : Constructing Value := do
  let text ← scalarText ((← get).graph.size + 1) id
  match tag, ← content id with
  | .timestamp, .mapping _ => throw (.scalar .timestampEntries)
  | _, _ => Scalar.value tag id text

def isCollection : Tag → Bool
  | .sequence | .mapping | .set | .orderedMap | .pairs => true
  | _ => false

def meet (id : NodeId) : Constructing Unit := do
  let state ← get
  if (state.denoted[id]?.join).isSome then pure ()
  else
    let tag := state.graph.tag id
    if isCollection tag then
      set { state with
        denoted := state.denoted.setIfInBounds id (some (.list []))
        waiting := state.waiting ++ [id] }
    else denote id (.leaf (← scalarValue tag id))

def retagValues (entries : List (NodeId × NodeId)) : Constructing Unit :=
  entries.forM fun entry =>
    modify fun state =>
      if state.graph.tag entry.1 = .value then
        { state with graph := state.graph.setTag entry.1 .text }
      else state

def entriesOf (id : NodeId) : Constructing (List (NodeId × NodeId)) := do
  match ← content id with
  | .mapping entries => pure entries
  | _ => malformed

/-- Replaces the merge keys of a mapping by the entries that they merge, from an entry on; the
entries merged so far are `merged`. Of a list of mappings the first one has priority. -/
def flattenFrom : Nat → NodeId → Nat → List (NodeId × NodeId) → Constructing Unit
  | 0, _, _, _ => malformed
  | fuel + 1, id, start, merged => do
    let entries ← entriesOf id
    let graph := (← get).graph
    match (entries.drop start).findIdx? fun entry => graph.tag entry.1 = .merge with
    | none =>
      retagValues entries
      setEntries id (merged ++ entries)
    | some offset =>
      let index := start + offset
      let source := (entries.getD index (id, id)).2
      setEntries id (entries.eraseIdx index)
      match ← content source with
      | .mapping _ =>
        flattenFrom fuel source 0 []
        flattenFrom fuel id index (merged ++ (← entriesOf source))
      | .sequence parts =>
        let mut lists := []
        for part in parts do
          flattenFrom fuel part 0 []
          lists := (← entriesOf part) :: lists
        flattenFrom fuel id index (merged ++ lists.flatten)
      | .scalar _ => malformed

def flatEntries (id : NodeId) : Constructing (List (NodeId × NodeId)) := do
  discard (entriesOf id)
  let graph := (← get).graph
  let references := graph.foldl (fun total node =>
    match node.content with
    | .mapping entries => total + entries.length
    | _ => total) 0
  flattenFrom (2 * references + 2) id 0 []
  entriesOf id

def key (id : NodeId) : Constructing Value := do
  meet id
  match (← get).denoted[id]?.join with
  | some (.leaf value) => pure value
  | _ => malformed

def putNode (key : Value) (node : NodeId) : List (Value × NodeId) → List (Value × NodeId)
  | [] => [(key, node)]
  | entry :: rest =>
    if entry.1.sameKey key then (entry.1, node) :: rest else entry :: putNode key node rest

def meetEntries : List (NodeId × NodeId) → List (Value × NodeId) →
    Constructing (List (Value × NodeId))
  | [], kept => pure kept
  | (keyNode, valueNode) :: rest, kept => do
    let key ← key keyNode
    meet valueNode
    meetEntries rest (putNode key valueNode kept)

def meetPairs : List NodeId → Constructing (List (NodeId × NodeId))
  | [] => pure []
  | item :: rest => do
    match ← entriesOf item with
    | [entry] =>
      meet entry.1
      meet entry.2
      pure (entry :: (← meetPairs rest))
    | _ => malformed

def itemsOf (id : NodeId) : Constructing (List NodeId) := do
  match ← content id with
  | .sequence items => pure items
  | _ => malformed

def fill (id : NodeId) : Constructing Unit := do
  match ← tag id with
  | .sequence =>
    let items ← itemsOf id
    items.forM meet
    denote id (.list items)
  | .mapping => denote id (.map (← meetEntries (← flatEntries id) []))
  | .set => denote id (.set ((← meetEntries (← flatEntries id) []).map (·.1)))
  | _ => denote id (.pairs (← meetPairs (← itemsOf id)))

def fillAll : Nat → Constructing Unit
  | 0 => pure ()
  | fuel + 1 => do
    match (← get).waiting with
    | [] => pure ()
    | id :: rest =>
      modify fun state => { state with waiting := rest }
      fill id
      fillAll fuel

end Construction

def Document.denoted (document : Document) :
    Except Fault (Array (Option Denoted)) := do
  let size := document.graph.size
  let start : Construction := ⟨document.graph, Array.replicate size none, []⟩
  let action : Constructing Unit := do
    Construction.meet document.root
    Construction.fillAll (size + 1)
  let (_, finished) ← action.run start
  .ok finished.denoted

namespace Denoted

abbrev Path := List (Option NodeId)

/-- The value of a node at the end of a path of collections. A collection on the path is named by
its distance. The first `unrolled` levels of collections are not remembered on the path, so what
stands below them is written out on its own. -/
def unfold (document : Document) (denoted : Array (Option Denoted)) (unrolled : Nat) :
    Nat → Path → NodeId → Value
  | 0, _, _ => .null
  | fuel + 1, path, id =>
    let below := if path.isEmpty ∧ 0 < unrolled then [] else some id :: path
    let inside := unfold document denoted (unrolled - 1) fuel
    let distance? := path.findIdx? (· = some id)
    match denoted[id]?.join, distance? with
    | some (.leaf value), _ => value
    | some (.map _), some distance => .again .curly (distance + 1)
    | some _, some distance => .again .square (distance + 1)
    | some (.list items), none => .list (some id) (items.map (inside below))
    | some (.set members), none => .set members
    | some (.map entries), none =>
      .map (some id) (entries.map fun entry => (entry.1, inside below entry.2))
    | some (.pairs entries), none =>
      let within := if below.isEmpty then [] else none :: below
      .list (some id) (entries.map fun entry =>
        .tuple [inside within entry.1, inside within entry.2])
    | none, _ => .null

end Denoted

/-- The value of a document. What stands below the first `unrolled` levels of collections is
written out on its own. -/
def Document.value (document : Document) (unrolled : Nat) : Except Fault Value := do
  let denoted ← document.denoted
  let fuel := 2 * document.graph.size + unrolled + 2
  .ok (Denoted.unfold document denoted unrolled fuel [] document.root)

end ChartManifests.Yaml
