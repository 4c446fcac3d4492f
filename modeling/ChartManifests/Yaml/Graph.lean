import ChartManifests.Text.CodePoint
/-!
The nodes of a document and their tags. A tag says what kind of value a node denotes; one outside of
the list has no value. Collections name their members by number, so an alias is one more reference
to a node, and a collection can contain itself.
-/

namespace ChartManifests.Yaml

inductive Tag
  | null
  | boolean
  | integer
  | double
  | binary
  | timestamp
  | orderedMap
  | pairs
  | set
  | text
  | sequence
  | mapping
  | merge
  | value
  | unknown
deriving DecidableEq, Repr, Inhabited

def commonHandle : String := "tag:yaml.org,2002:"

def Tag.ofName (name : List Char) : Tag :=
  let base := commonHandle.toList
  if base.isPrefixOf name then
    match String.ofList (name.drop base.length) with
    | "null" => .null
    | "bool" => .boolean
    | "int" => .integer
    | "float" => .double
    | "binary" => .binary
    | "timestamp" => .timestamp
    | "omap" => .orderedMap
    | "pairs" => .pairs
    | "set" => .set
    | "str" => .text
    | "seq" => .sequence
    | "map" => .mapping
    | "merge" => .merge
    | "value" => .value
    | _ => .unknown
  else .unknown

abbrev NodeId := Nat

inductive Content
  | scalar (text : Text)
  | sequence (items : List NodeId)
  | mapping (entries : List (NodeId × NodeId))
deriving Repr, Inhabited

structure Node where
  tag : Tag
  content : Content
deriving Repr, Inhabited

abbrev Graph := Array Node

structure Document where
  graph : Graph
  root : NodeId
deriving Repr

namespace Graph

def content? (graph : Graph) (id : NodeId) : Option Content := graph[id]?.map (·.content)

def tag (graph : Graph) (id : NodeId) : Tag := (graph[id]?.map (·.tag)).getD .unknown

def setContent (graph : Graph) (id : NodeId) (content : Content) : Graph :=
  graph.modify id fun node => { node with content }

def setTag (graph : Graph) (id : NodeId) (tag : Tag) : Graph :=
  graph.modify id fun node => { node with tag }

end Graph

end ChartManifests.Yaml
