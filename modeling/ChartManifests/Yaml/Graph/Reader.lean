import ChartManifests.Yaml.Form
import ChartManifests.Yaml.Graph
import ChartManifests.Yaml.Token.Stream
/-!
Documents read from tokens. An anchor must be new in its document, an alias must refer to an
anchor in front of it, and a tag handle must be declared. Where a node may be missing, an empty
scalar takes its place.
-/

namespace ChartManifests.Yaml

structure ReaderState where
  tokens : List Token
  fault : Option Fault
  graph : Graph
  anchors : List (List Char × NodeId)
  handles : List (List Char × List Char)

abbrev Reader := StateT ReaderState (Except Fault)

inductive Opening
  | bare
  | marked
  | none
deriving DecidableEq, Repr

namespace Reader

def malformed {α : Type} : Reader α := throw .malformed

def peek : Reader Token := do
  match (← get).tokens with
  | token :: _ => pure token
  | [] => throw ((← get).fault.getD .malformed)

def advance : Reader Unit := modify fun state => { state with tokens := state.tokens.drop 1 }

def passes (token : Token) : Reader Bool := do
  if (← peek) = token then
    advance
    pure true
  else pure false

def demand (token : Token) : Reader Unit := do
  if !(← passes token) then malformed

structure Properties where
  anchor : Option (List Char)
  tag : Option (List Char)

def readAnchor? : Reader (Option (List Char)) := do
  match ← peek with
  | .anchor name => advance; pure (some name)
  | _ => pure none

structure WrittenTag where
  handle : Option (List Char)
  suffix : List Char

def readTag? : Reader (Option WrittenTag) := do
  match ← peek with
  | .tag handle suffix => advance; pure (some ⟨handle, suffix⟩)
  | _ => pure none

def expandTag (tag : WrittenTag) : Reader (List Char) := do
  match tag.handle with
  | none => pure tag.suffix
  | some handle =>
    match (← get).handles.lookup handle with
    | some expansion => pure (expansion ++ tag.suffix)
    | none => malformed

def readProperties : Reader Properties := do
  let (anchor, tag) ← do
    match ← readAnchor? with
    | some anchor => pure (some anchor, ← readTag?)
    | none =>
      match ← readTag? with
      | some tag => pure (← readAnchor?, some tag)
      | none => pure (none, none)
  match tag with
  | some tag => pure ⟨anchor, some (← expandTag tag)⟩
  | none => pure ⟨anchor, none⟩

def scalarTag (tag : Option (List Char)) (plain : Bool) (text : Text) : Tag :=
  match tag with
  | none => if plain then Form.tagOf text else .text
  | some name => if name = ['!'] then Form.tagOf text else Tag.ofName name

def collectionTag (default : Tag) : Option (List Char) → Tag
  | none => default
  | some name => if name = ['!'] then default else Tag.ofName name

def addNode (properties : Properties) (tag : Tag) (content : Content) : Reader NodeId := do
  let state ← get
  let id := state.graph.size
  let graph := state.graph.push ⟨tag, content⟩
  match properties.anchor with
  | none =>
    set { state with graph }
    pure id
  | some anchor =>
    if (state.anchors.lookup anchor).isSome then malformed
    else
      set { state with graph, anchors := (anchor, id) :: state.anchors }
      pure id

def addScalar (properties : Properties) (plain : Bool) (text : Text) : Reader NodeId :=
  addNode properties (scalarTag properties.tag plain text) (.scalar text)

def addEmpty : Reader NodeId := addScalar ⟨none, none⟩ true []

def setContent (id : NodeId) (content : Content) : Reader Unit :=
  modify fun state => { state with graph := state.graph.setContent id content }

def readSequence (properties : Properties) (items : Reader (List NodeId)) : Reader NodeId := do
  let id ← addNode properties (collectionTag .sequence properties.tag) (.sequence [])
  setContent id (.sequence (← items))
  pure id

def readMapping (properties : Properties) (entries : Reader (List (NodeId × NodeId))) :
    Reader NodeId := do
  let id ← addNode properties (collectionTag .mapping properties.tag) (.mapping [])
  setContent id (.mapping (← entries))
  pure id

def readAlias (name : List Char) : Reader NodeId := do
  match (← get).anchors.lookup name with
  | some id => pure id
  | none => malformed

def orEmpty (stops : List Token) (node : Reader NodeId) : Reader NodeId := do
  if stops.contains (← peek) then addEmpty else node

mutual

/-- A node. Outside of block collections only flow collections and scalars are read; where a
mapping's value may be a sequence without an indentation of its own, `indentless` is set. -/
def readNode (block indentless : Bool) : Nat → Reader NodeId
  | 0 => malformed
  | fuel + 1 => do
    if let .alias name := ← peek then
      advance
      readAlias name
    else
      let properties ← readProperties
      match ← peek, block, indentless with
      | .blockEntry, _, true => readSequence properties (readIndentlessItems fuel)
      | .scalar text plain, _, _ =>
        advance
        addScalar properties plain text
      | .flowSequenceStart, _, _ => readSequence properties (advance *> readFlowItems true fuel)
      | .flowMappingStart, _, _ => readMapping properties (advance *> readFlowEntries true fuel)
      | .blockSequenceStart, true, _ => readSequence properties (advance *> readBlockItems fuel)
      | .blockMappingStart, true, _ => readMapping properties (advance *> readBlockEntries fuel)
      | _, _, _ =>
        if properties.anchor.isNone && properties.tag.isNone then malformed
        else addScalar properties true []

def readBlockItems : Nat → Reader (List NodeId)
  | 0 => malformed
  | fuel + 1 => do
    if ← passes .blockEntry then
      let item ← orEmpty [.blockEntry, .blockEnd] (readNode true false fuel)
      pure (item :: (← readBlockItems fuel))
    else
      demand .blockEnd
      pure []

def readIndentlessItems : Nat → Reader (List NodeId)
  | 0 => malformed
  | fuel + 1 => do
    if ← passes .blockEntry then
      let item ← orEmpty [.blockEntry, .key, .value, .blockEnd] (readNode true false fuel)
      pure (item :: (← readIndentlessItems fuel))
    else pure []

def readBlockEntries : Nat → Reader (List (NodeId × NodeId))
  | 0 => malformed
  | fuel + 1 => do
    let stops := [Token.key, .value, .blockEnd]
    if ← passes .key then
      let key ← orEmpty stops (readNode true true fuel)
      let value ←
        if ← passes .value then orEmpty stops (readNode true true fuel) else addEmpty
      pure ((key, value) :: (← readBlockEntries fuel))
    else
      demand .blockEnd
      pure []

def readFlowItems (first : Bool) : Nat → Reader (List NodeId)
  | 0 => malformed
  | fuel + 1 => do
    if ← passes .flowSequenceEnd then pure []
    else
      if !first then demand .flowEntry
      if (← peek) = .key then
        let item ← readMapping ⟨none, none⟩ (readSingleEntry fuel)
        pure (item :: (← readFlowItems false fuel))
      else if ← passes .flowSequenceEnd then pure []
      else
        let item ← readNode false false fuel
        pure (item :: (← readFlowItems false fuel))

def readSingleEntry : Nat → Reader (List (NodeId × NodeId))
  | 0 => malformed
  | fuel + 1 => do
    advance
    let key ← orEmpty [.value, .flowEntry, .flowSequenceEnd] (readNode false false fuel)
    let value ←
      if ← passes .value then
        orEmpty [.flowEntry, .flowSequenceEnd] (readNode false false fuel)
      else addEmpty
    pure [(key, value)]

def readFlowEntries (first : Bool) : Nat → Reader (List (NodeId × NodeId))
  | 0 => malformed
  | fuel + 1 => do
    if ← passes .flowMappingEnd then pure []
    else
      if !first then demand .flowEntry
      if ← passes .key then
        let key ← orEmpty [.value, .flowEntry, .flowMappingEnd] (readNode false false fuel)
        let value ←
          if ← passes .value then
            orEmpty [.flowEntry, .flowMappingEnd] (readNode false false fuel)
          else addEmpty
        pure ((key, value) :: (← readFlowEntries false fuel))
      else if ← passes .flowMappingEnd then pure []
      else
        let key ← readNode false false fuel
        let value ← addEmpty
        pure ((key, value) :: (← readFlowEntries false fuel))

end

def commonHandles : List (List Char × List Char) :=
  [(['!'], ['!']), (['!', '!'], commonHandle.toList)]

def readDirectives : Nat → Bool → List (List Char × List Char) → Reader Unit
  | 0, _, _ => malformed
  | fuel + 1, versioned, handles => do
    match ← peek with
    | .directive content =>
      advance
      match content with
      | .version major _ =>
        if versioned ∨ major ≠ 1 then malformed else readDirectives fuel true handles
      | .tagHandle handle expansion =>
        if (handles.lookup handle).isSome then malformed
        else readDirectives fuel versioned ((handle, expansion) :: handles)
      | .reserved => readDirectives fuel versioned handles
    | _ => modify fun state => { state with handles := handles ++ commonHandles }

def skipEndMarkers : Nat → Reader Unit
  | 0 => malformed
  | fuel + 1 => do
    if ← passes .documentEnd then skipEndMarkers fuel

def readOpening (first : Bool) : Reader Opening := do
  let fuel := (← get).tokens.length + 1
  let bare ←
    if first then
      match ← peek with
      | .directive _ | .documentStart | .streamEnd => pure false
      | _ => pure true
    else pure false
  if bare then
    modify fun state => { state with handles := commonHandles }
    pure .bare
  else
    skipEndMarkers fuel
    if (← peek) = .streamEnd then pure .none
    else
      readDirectives fuel false []
      demand .documentStart
      pure .marked

def readDocument (opening : Opening) : Reader Document := do
  let fuel := 4 * (← get).tokens.length + 8
  modify fun state => { state with graph := #[], anchors := [] }
  let root ←
    match opening, ← peek with
    | .marked, .directive _ | .marked, .documentStart | .marked, .documentEnd
    | .marked, .streamEnd => addEmpty
    | _, _ => readNode true false fuel
  discard (passes .documentEnd)
  pure ⟨(← get).graph, root⟩

end Reader

def ReaderState.start (stream : TokenStream) : ReaderState :=
  ⟨stream.tokens, stream.fault, #[], [], []⟩

end ChartManifests.Yaml
