import ChartManifests.Proofs.Result
import ChartManifests.Yaml.Graph.Reader
/-!
Readers go forward. What a reader leaves is the end of what it was given, whatever it reads; and
what opens a document with a marker passes the marker at least.
-/

namespace ChartManifests.Yaml.Reader

variable {α β : Type}

theorem run_bind_ok {first : Reader α} {next : α → Reader β} {state after : ReaderState}
    {result : β} : (first >>= next).run state = .ok (result, after) ↔
      ∃ value between, first.run state = .ok (value, between) ∧
        (next value).run between = .ok (result, after) := by
  rw [StateT.run_bind, bind_eq_ok]
  simp only [Prod.exists]

def GoesForward (reader : Reader α) : Prop :=
  ∀ state value after, reader.run state = .ok (value, after) → after.tokens <:+ state.tokens

namespace GoesForward

theorem bind {first : Reader α} {next : α → Reader β} (begun : GoesForward first)
    (later : ∀ value, GoesForward (next value)) : GoesForward (first >>= next) := by
  intro state result after ran
  obtain ⟨value, between, own, rest⟩ := run_bind_ok.mp ran
  exact (later value between result after rest).trans (begun state value between own)

theorem pure (value : α) : GoesForward (pure value : Reader α) := by
  rintro state _ _ ⟨⟩
  exact List.suffix_refl _

theorem throw (fault : Fault) : GoesForward (throw fault : Reader α) := nofun

theorem malformed : GoesForward (malformed : Reader α) := throw .malformed

theorem get : GoesForward (get : Reader ReaderState) := by
  rintro state _ _ ⟨⟩
  exact List.suffix_refl _

theorem modify {change : ReaderState → ReaderState}
    (forward : ∀ state, (change state).tokens <:+ state.tokens) :
    GoesForward (modify change : Reader Unit) := by
  rintro state _ _ ⟨⟩
  exact forward state

end GoesForward

open GoesForward

theorem peek_forward : GoesForward peek := by
  refine GoesForward.get.bind fun state => ?_
  split
  · exact GoesForward.pure _
  · exact GoesForward.get.bind fun _ => GoesForward.throw _

theorem advance_forward : GoesForward advance :=
  GoesForward.modify fun state => List.drop_suffix 1 state.tokens

theorem passes_forward (token : Token) : GoesForward (passes token) := by
  refine peek_forward.bind fun next => ?_
  split
  · exact advance_forward.bind fun _ => GoesForward.pure _
  · exact GoesForward.pure _

theorem demand_forward (token : Token) : GoesForward (demand token) := by
  refine (passes_forward token).bind fun passed => ?_
  split
  · exact GoesForward.malformed
  · exact GoesForward.pure _

theorem readAnchor?_forward : GoesForward readAnchor? := by
  refine peek_forward.bind fun next => ?_
  split
  · exact advance_forward.bind fun _ => GoesForward.pure _
  · exact GoesForward.pure _

theorem readTag?_forward : GoesForward readTag? := by
  refine peek_forward.bind fun next => ?_
  split
  · exact advance_forward.bind fun _ => GoesForward.pure _
  · exact GoesForward.pure _

theorem expandTag_forward (tag : WrittenTag) : GoesForward (expandTag tag) := by
  unfold expandTag
  split
  · exact GoesForward.pure _
  · refine GoesForward.get.bind fun state => ?_
    split
    · exact GoesForward.pure _
    · exact GoesForward.malformed

theorem readProperties_forward : GoesForward readProperties := by
  have expanded : ∀ anchor tag, GoesForward (match tag with
      | some tag => do pure ⟨anchor, some (← expandTag tag)⟩
      | none => pure ⟨anchor, none⟩ : Reader Properties) := by
    intro anchor tag
    split
    · exact (expandTag_forward _).bind fun _ => GoesForward.pure _
    · exact GoesForward.pure _
  refine readAnchor?_forward.bind fun anchor => ?_
  cases anchor with
  | some anchor => exact readTag?_forward.bind fun tag => expanded (some anchor) tag
  | none =>
    refine readTag?_forward.bind fun tag => ?_
    cases tag with
    | some tag => exact readAnchor?_forward.bind fun anchor => expanded anchor (some tag)
    | none => exact expanded none none

theorem addNode_forward (properties : Properties) (tag : Tag) (content : Content) :
    GoesForward (addNode properties tag content) := by
  intro state value after ran
  unfold addNode at ran
  obtain ⟨_, _, ⟨⟩, ran⟩ := run_bind_ok.mp ran
  dsimp only at ran
  split at ran
  · cases ran
    exact List.suffix_refl _
  · split at ran
    · cases ran
    · cases ran
      exact List.suffix_refl _

theorem addScalar_forward (properties : Properties) (plain : Bool) (text : Text) :
    GoesForward (addScalar properties plain text) := addNode_forward _ _ _

theorem addEmpty_forward : GoesForward addEmpty := addScalar_forward _ _ _

theorem setContent_forward (id : NodeId) (content : Content) :
    GoesForward (setContent id content) :=
  GoesForward.modify fun _ => List.suffix_refl _

theorem readSequence_forward (properties : Properties) {items : Reader (List NodeId)}
    (forward : GoesForward items) : GoesForward (readSequence properties items) :=
  (addNode_forward _ _ _).bind fun id => forward.bind fun _ =>
    (setContent_forward id _).bind fun _ => GoesForward.pure _

theorem readMapping_forward (properties : Properties) {entries : Reader (List (NodeId × NodeId))}
    (forward : GoesForward entries) : GoesForward (readMapping properties entries) :=
  (addNode_forward _ _ _).bind fun id => forward.bind fun _ =>
    (setContent_forward id _).bind fun _ => GoesForward.pure _

theorem readAlias_forward (name : List Char) : GoesForward (readAlias name) := by
  refine GoesForward.get.bind fun state => ?_
  split
  · exact GoesForward.pure _
  · exact GoesForward.malformed

theorem orEmpty_forward (stops : List Token) {node : Reader NodeId} (forward : GoesForward node) :
    GoesForward (orEmpty stops node) := by
  refine peek_forward.bind fun next => ?_
  split
  · exact addEmpty_forward
  · exact forward

structure NodesForward (fuel : Nat) : Prop where
  node : ∀ block indentless, GoesForward (readNode block indentless fuel)
  blockItems : GoesForward (readBlockItems fuel)
  indentlessItems : GoesForward (readIndentlessItems fuel)
  blockEntries : GoesForward (readBlockEntries fuel)
  flowItems : ∀ first, GoesForward (readFlowItems first fuel)
  singleEntry : GoesForward (readSingleEntry fuel)
  flowEntries : ∀ first, GoesForward (readFlowEntries first fuel)

section Nodes

variable {fuel : Nat}

theorem readNode_forward (inner : NodesForward fuel) (block indentless : Bool) :
    GoesForward (readNode block indentless (fuel + 1)) := by
  have behind : ∀ {reader : Reader (List NodeId)}, GoesForward reader →
      GoesForward (advance *> reader) := fun forward => advance_forward.bind fun _ => forward
  have beyond : ∀ {reader : Reader (List (NodeId × NodeId))}, GoesForward reader →
      GoesForward (advance *> reader) := fun forward => advance_forward.bind fun _ => forward
  unfold readNode
  refine peek_forward.bind fun next => ?_
  split
  · exact advance_forward.bind fun _ => readAlias_forward _
  · refine readProperties_forward.bind fun properties => peek_forward.bind fun token => ?_
    split
    · exact readSequence_forward _ inner.indentlessItems
    · exact advance_forward.bind fun _ => addScalar_forward _ _ _
    · exact readSequence_forward _ (behind (inner.flowItems true))
    · exact readMapping_forward _ (beyond (inner.flowEntries true))
    · exact readSequence_forward _ (behind inner.blockItems)
    · exact readMapping_forward _ (beyond inner.blockEntries)
    · split
      · exact GoesForward.malformed
      · exact addScalar_forward _ _ _

theorem readBlockItems_forward (inner : NodesForward fuel) :
    GoesForward (readBlockItems (fuel + 1)) := by
  unfold readBlockItems
  refine (passes_forward _).bind fun entry => ?_
  split
  · exact (orEmpty_forward _ (inner.node _ _)).bind fun _ => inner.blockItems.bind fun _ =>
      GoesForward.pure _
  · exact (demand_forward _).bind fun _ => GoesForward.pure _

theorem readIndentlessItems_forward (inner : NodesForward fuel) :
    GoesForward (readIndentlessItems (fuel + 1)) := by
  unfold readIndentlessItems
  refine (passes_forward _).bind fun entry => ?_
  split
  · exact (orEmpty_forward _ (inner.node _ _)).bind fun _ => inner.indentlessItems.bind fun _ =>
      GoesForward.pure _
  · exact GoesForward.pure _

theorem readBlockEntries_forward (inner : NodesForward fuel) :
    GoesForward (readBlockEntries (fuel + 1)) := by
  have further : ∀ key value, GoesForward (do
      pure ((key, value) :: (← readBlockEntries fuel)) : Reader (List (NodeId × NodeId))) :=
    fun _ _ => inner.blockEntries.bind fun _ => GoesForward.pure _
  unfold readBlockEntries
  refine (passes_forward _).bind fun keyed => ?_
  split
  · refine (orEmpty_forward _ (inner.node _ _)).bind fun key =>
      (passes_forward _).bind fun valued => ?_
    split
    · exact (orEmpty_forward _ (inner.node _ _)).bind fun value => further key value
    · exact addEmpty_forward.bind fun value => further key value
  · exact (demand_forward _).bind fun _ => GoesForward.pure _

theorem readFlowItems_forward (inner : NodesForward fuel) (first : Bool) :
    GoesForward (readFlowItems first (fuel + 1)) := by
  have further : ∀ item, GoesForward (do
      pure (item :: (← readFlowItems false fuel)) : Reader (List NodeId)) :=
    fun _ => (inner.flowItems false).bind fun _ => GoesForward.pure _
  have item : GoesForward (do
      if (← peek) = .key then
        let item ← readMapping ⟨none, none⟩ (readSingleEntry fuel)
        pure (item :: (← readFlowItems false fuel))
      else if ← passes .flowSequenceEnd then pure []
      else
        let item ← readNode false false fuel
        pure (item :: (← readFlowItems false fuel)) : Reader (List NodeId)) := by
    refine peek_forward.bind fun next => ?_
    split
    · exact (readMapping_forward _ inner.singleEntry).bind further
    · refine (passes_forward _).bind fun ended => ?_
      split
      · exact GoesForward.pure _
      · exact (inner.node _ _).bind further
  unfold readFlowItems
  refine (passes_forward _).bind fun ended => ?_
  split
  · exact GoesForward.pure _
  · split
    · exact (demand_forward _).bind fun _ => item
    · exact item

theorem readSingleEntry_forward (inner : NodesForward fuel) :
    GoesForward (readSingleEntry (fuel + 1)) := by
  unfold readSingleEntry
  refine advance_forward.bind fun _ => (orEmpty_forward _ (inner.node _ _)).bind fun key =>
    (passes_forward _).bind fun valued => ?_
  split
  · exact (orEmpty_forward _ (inner.node _ _)).bind fun value => GoesForward.pure _
  · exact addEmpty_forward.bind fun value => GoesForward.pure _

theorem readFlowEntries_forward (inner : NodesForward fuel) (first : Bool) :
    GoesForward (readFlowEntries first (fuel + 1)) := by
  have further : ∀ key value, GoesForward (do
      pure ((key, value) :: (← readFlowEntries false fuel)) : Reader (List (NodeId × NodeId))) :=
    fun _ _ => (inner.flowEntries false).bind fun _ => GoesForward.pure _
  have entry : GoesForward (do
      if ← passes .key then
        let key ← orEmpty [.value, .flowEntry, .flowMappingEnd] (readNode false false fuel)
        let value ←
          if ← passes .value then
            orEmpty [.flowEntry, .flowMappingEnd] (readNode false false fuel)
          else addEmpty
        pure ((key, value) :: (← readFlowEntries false fuel))
      else if ← passes .flowMappingEnd then pure []
      else
        let key ← readNode false false fuel
        let value ← addEmpty
        pure ((key, value) :: (← readFlowEntries false fuel)) :
        Reader (List (NodeId × NodeId))) := by
    refine (passes_forward _).bind fun keyed => ?_
    split
    · refine (orEmpty_forward _ (inner.node _ _)).bind fun key =>
        (passes_forward _).bind fun valued => ?_
      split
      · exact (orEmpty_forward _ (inner.node _ _)).bind fun value => further key value
      · exact addEmpty_forward.bind fun value => further key value
    · refine (passes_forward _).bind fun ended => ?_
      split
      · exact GoesForward.pure _
      · exact (inner.node _ _).bind fun key => addEmpty_forward.bind fun value => further key value
  unfold readFlowEntries
  refine (passes_forward _).bind fun ended => ?_
  split
  · exact GoesForward.pure _
  · split
    · exact (demand_forward _).bind fun _ => entry
    · exact entry

-- Each reader hands the others one fuel less, so all of them are shown together.
theorem nodesForward : ∀ fuel, NodesForward fuel
  | 0 => ⟨fun _ _ => GoesForward.malformed, GoesForward.malformed, GoesForward.malformed,
      GoesForward.malformed, fun _ => GoesForward.malformed, GoesForward.malformed,
      fun _ => GoesForward.malformed⟩
  | fuel + 1 =>
    have inner := nodesForward fuel
    ⟨readNode_forward inner, readBlockItems_forward inner, readIndentlessItems_forward inner,
      readBlockEntries_forward inner, readFlowItems_forward inner, readSingleEntry_forward inner,
      readFlowEntries_forward inner⟩

end Nodes

theorem readDocument_forward (opening : Opening) : GoesForward (readDocument opening) := by
  have closed : ∀ root, GoesForward (do
      discard (passes .documentEnd)
      pure ⟨(← get).graph, root⟩ : Reader Document) := by
    intro root
    refine GoesForward.bind ?_ fun _ => GoesForward.get.bind fun _ => GoesForward.pure _
    exact (passes_forward _).bind fun _ => GoesForward.pure _
  unfold readDocument
  refine GoesForward.get.bind fun state => GoesForward.bind ?_ fun _ =>
    peek_forward.bind fun next => ?_
  · exact GoesForward.modify fun _ => List.suffix_refl _
  · split
    · exact addEmpty_forward.bind closed
    · exact addEmpty_forward.bind closed
    · exact addEmpty_forward.bind closed
    · exact addEmpty_forward.bind closed
    · exact ((nodesForward _).node _ _).bind closed

theorem skipEndMarkers_forward : ∀ fuel, GoesForward (skipEndMarkers fuel)
  | 0 => GoesForward.malformed
  | fuel + 1 => by
    unfold skipEndMarkers
    refine (passes_forward _).bind fun marked => ?_
    split
    · exact skipEndMarkers_forward fuel
    · exact GoesForward.pure _

theorem readDirectives_forward : ∀ fuel versioned handles,
    GoesForward (readDirectives fuel versioned handles)
  | 0, _, _ => GoesForward.malformed
  | fuel + 1, versioned, handles => by
    unfold readDirectives
    refine peek_forward.bind fun next => ?_
    split
    · refine advance_forward.bind fun _ => ?_
      split
      · split
        · exact GoesForward.malformed
        · exact readDirectives_forward fuel _ _
      · split
        · exact GoesForward.malformed
        · exact readDirectives_forward fuel _ _
      · exact readDirectives_forward fuel _ _
    · exact GoesForward.modify fun _ => List.suffix_refl _

theorem peek_ok {token : Token} {state after : ReaderState}
    (ran : peek.run state = .ok (token, after)) :
    after = state ∧ ∃ rest, state.tokens = token :: rest := by
  unfold peek at ran
  obtain ⟨_, _, ⟨⟩, ran⟩ := run_bind_ok.mp ran
  split at ran
  next first rest tokens =>
    cases ran
    exact ⟨rfl, rest, tokens⟩
  next => cases ran

theorem demand_shortens {token : Token} {state after : ReaderState}
    (ran : (demand token).run state = .ok ((), after)) :
    after.tokens.length < state.tokens.length := by
  obtain ⟨passed, between, tried, checked⟩ := run_bind_ok.mp ran
  obtain ⟨next, _, peeked, compared⟩ := run_bind_ok.mp tried
  obtain ⟨rfl, rest, tokens⟩ := peek_ok peeked
  split at compared
  · cases compared
    cases checked
    simp [tokens]
  · cases compared
    cases checked

theorem marked_shortens {fuel : Nat} {state after : ReaderState} {opening : Opening}
    (ran : (do
      skipEndMarkers fuel
      if (← peek) = .streamEnd then pure .none
      else
        readDirectives fuel false []
        demand .documentStart
        pure .marked : Reader Opening).run state = .ok (opening, after)) :
    opening = .none ∨ after.tokens.length < state.tokens.length := by
  obtain ⟨_, skipped, ended, looked⟩ := run_bind_ok.mp ran
  obtain ⟨next, _, peeked, decided⟩ := run_bind_ok.mp looked
  obtain ⟨rfl, -⟩ := peek_ok peeked
  split at decided
  · cases decided
    exact Or.inl rfl
  · obtain ⟨_, directed, read, demanding⟩ := run_bind_ok.mp decided
    obtain ⟨_, _, demanded, ⟨⟩⟩ := run_bind_ok.mp demanding
    have passed := demand_shortens demanded
    have skips := (skipEndMarkers_forward _ _ _ _ ended).length_le
    have directs := (readDirectives_forward _ _ _ _ _ _ read).length_le
    exact Or.inr (by omega)

theorem readOpening_shortens {first : Bool} {state after : ReaderState} {opening : Opening}
    (ran : (readOpening first).run state = .ok (opening, after)) (opened : opening ≠ .none) :
    after.tokens.length < state.tokens.length ∨
      first = true ∧ after.tokens.length = state.tokens.length := by
  obtain ⟨_, _, ⟨⟩, looked⟩ := run_bind_ok.mp ran
  cases first with
  | false => exact Or.inl ((marked_shortens looked).resolve_left opened)
  | true =>
    obtain ⟨next, _, peeked, decided⟩ := run_bind_ok.mp looked
    obtain ⟨rfl, -⟩ := peek_ok peeked
    split at decided
    · exact Or.inl ((marked_shortens decided).resolve_left opened)
    · exact Or.inl ((marked_shortens decided).resolve_left opened)
    · exact Or.inl ((marked_shortens decided).resolve_left opened)
    · cases decided
      exact Or.inr ⟨rfl, rfl⟩

end ChartManifests.Yaml.Reader
