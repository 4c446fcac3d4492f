import ChartManifests.Program.Run
/-!
Bytes that programs take from descriptors and write to them. A channel holds a limited number of
bytes; a program that writes to one waits for room in it, and a program that reads waits for bytes.
Whoever writes to a channel that nobody reads from is ended by a signal.
-/

namespace ChartManifests.Program

open Text (Bytes)

def longestChannel : Nat := 65536

def longestFlood : Nat := 262144

def pipeSignal : Nat := 13

def refuseChannel : Run FileFault := do
  let state ← get
  match state.traps.lookup pipeSignal with
  | some action =>
    if action ≠ "" then set { state with arrived := state.arrived ++ [pipeSignal] }
    pure .brokenPipe
  | none => Run.finish (.signal pipeSignal)

def fillChannel (channel : Nat) : Nat → Bytes → Run (Except FileFault Unit)
  | 0, _ => pure (.ok ())
  | bound + 1, content =>
    if content.isEmpty then pure (.ok ())
    else do
      Run.awaitEvent (.room channel)
      let state ← get
      if state.answer = Answer.left then pure (.error (← refuseChannel))
      else
        let old := (state.channels[channel]?).getD []
        let room := longestChannel - old.length
        set { state with
          channels := state.channels.setIfInBounds channel (old ++ content.take room) }
        fillChannel channel bound (content.drop room)

def overwritten (old : Bytes) (offset : Nat) (content : Bytes) : Bytes :=
  old.take offset ++ List.replicate (offset - old.length) 0 ++ content
    ++ old.drop (offset + content.length)

def write (descriptor : Nat) (content : Bytes) : Run (Except FileFault Unit) := do
  let state ← get
  match state.streamNumber? descriptor, state.stream? descriptor with
  | some number, some (.collected chunks) =>
    set (if content.isEmpty then state
      else state.setStream number (.collected (content :: chunks)))
    pure (.ok ())
  | some number, some (.opened node offset access) =>
    if !access.writes then pure (.error .badDescriptor)
    else if content.isEmpty then pure (.ok ())
    else
      let old := (state.files.bytesOf? node).getD []
      let place := if access.appends then old.length else offset
      let new := if place = old.length then old ++ content else overwritten old place content
      let moved := state.setStream number (.opened node (place + content.length) access)
      set { moved with files := state.files.setContent node new }
      pure (.ok ())
  | _, some (.sink channel) => fillChannel channel (content.length + 1) content
  | _, some (.device .full) =>
    pure (if content.isEmpty then .ok () else .error .noSpace)
  | _, some (.device _) => pure (.ok ())
  | _, _ => pure (.error .badDescriptor)

def put (content : Bytes) : Run Unit := do
  match ← write 1 content with
  | .ok () => pure ()
  | .error fault => modify fun state => { state with unwritten := state.unwritten.or (some fault) }

def writeText (descriptor : Nat) (text : String) : Run Unit :=
  if descriptor = 1 then put (Text.octets text)
  else discard (write descriptor (Text.octets text))

def noise (offset count : Nat) : Bytes :=
  (List.range count).map fun index =>
    let place := offset + index
    UInt8.ofNat (place * 167 + place / 256 * 91 + place * place % 251)

def receive (descriptor count : Nat) : Run (Except FileFault Bytes) := do
  let state ← get
  match state.streamNumber? descriptor, state.stream? descriptor with
  | some number, some (.pending content) =>
    set (state.setStream number (.pending (content.drop count)))
    pure (.ok (content.take count))
  | some number, some (.opened node offset access) =>
    if !access.reads then pure (.error .badDescriptor)
    else
      let part := (((state.files.bytesOf? node).getD []).drop offset).take count
      set (state.setStream number (.opened node (offset + part.length) access))
      pure (.ok part)
  | _, some (.source channel) => do
    Run.awaitEvent (.bytes channel)
    let state ← get
    let content := (state.channels[channel]?).getD []
    set { state with
      channels := state.channels.setIfInBounds channel (content.drop count)
      flooded := state.flooded || state.answer = Answer.flooded }
    pure (.ok (content.take count))
  | _, some (.device .random) => pure (.ok (noise state.clock count))
  | _, some (.device kind) =>
    pure (.ok (if kind = .zero || kind = .full then List.replicate count 0 else []))
  | _, some .directory => pure (.error .isDirectory)
  | _, _ => pure (.error .badDescriptor)

def isEndless (descriptor : Nat) : Run Bool := do
  match (← get).stream? descriptor with
  | some (.device kind) => pure (kind = .zero || kind = .full || kind = .random)
  | _ => pure false

def gather (descriptor : Nat) : Nat → Option Nat → List Bytes → Run (Except FileFault Bytes)
  | 0, _, chunks => pure (.ok (joined chunks))
  | bound + 1, count, chunks =>
    if count = some 0 then pure (.ok (joined chunks))
    else do
      match ← receive descriptor (count.getD longestFlood) with
      | .error fault => pure (.error fault)
      | .ok [] => pure (.ok (joined chunks))
      | .ok chunk =>
        gather descriptor bound (count.map (· - chunk.length)) (chunk :: chunks)

def longestGathering : Nat := 10 ^ 12

def takeBytes (descriptor : Nat) (count : Option Nat) : Run (Except FileFault Bytes) := do
  if count.isNone && (← isEndless descriptor) then
    modify fun state => { state with flooded := true }
    receive descriptor longestFlood
  else gather descriptor longestGathering count []

def take (descriptor : Nat) (count : Option Nat) : Run Bytes := do
  match ← takeBytes descriptor count with
  | .ok content => pure content
  | .error _ => pure []

def gatherLine (channel : Nat) : Nat → Bytes → Run (Bytes × Bool)
  | 0, begun => pure (begun, false)
  | bound + 1, begun => do
    Run.awaitEvent (.bytes channel)
    let state ← get
    let content := (state.channels[channel]?).getD []
    let line := content.takeWhile (· ≠ 10)
    let after := content.drop line.length
    set { state with channels := state.channels.setIfInBounds channel (after.drop 1) }
    if content.isEmpty || !after.isEmpty then pure (begun ++ line, !after.isEmpty)
    else gatherLine channel bound (begun ++ line)

def takeLine (descriptor : Nat) : Run (Except FileFault (Bytes × Bool)) := do
  let state ← get
  let split (content : Bytes) : Bytes × Bytes :=
    let line := content.takeWhile (· ≠ 10)
    (line, content.drop line.length)
  match state.streamNumber? descriptor, state.stream? descriptor with
  | some number, some (.pending content) =>
    let (line, after) := split content
    set (state.setStream number (.pending (after.drop 1)))
    pure (.ok (line, !after.isEmpty))
  | some number, some (.opened node offset access) =>
    if !access.reads then pure (.error .badDescriptor)
    else
      let (line, after) := split (((state.files.bytesOf? node).getD []).drop offset)
      let length := line.length + (after.take 1).length
      set (state.setStream number (.opened node (offset + length) access))
      pure (.ok (line, !after.isEmpty))
  | _, some (.source channel) => do
    pure (.ok (← gatherLine channel longestGathering []))
  | _, some .directory => pure (.error .isDirectory)
  | _, some (.device _) => if ← isEndless descriptor then Run.stall else pure (.ok ([], false))
  | _, _ => pure (.error .badDescriptor)

def writeForever {α : Type} (content : Bytes) : Run α := do
  let often := 4 * longestFlood / max content.length 1 + 1
  match (← get).stream? 1 with
  | some (.sink channel) => do
    match ← write 1 (List.replicate often content).flatten with
    | .ok () => do
      Run.awaitEvent (.abandonment channel)
      discard refuseChannel
      Run.stall
    | .error _ => throw (.exited 1)
  | some (.device .full) => do
    put content
    throw (.exited 1)
  | _ => Run.stall

/-- Ends a program that has read a part of what never ends: it goes on for as long as somebody
reads what it writes. -/
def outlastFlood : Run Unit := do
  let state ← get
  if state.flooded then
    match state.stream? 1 with
    | some (.sink channel) => do
      Run.awaitEvent (.abandonment channel)
      discard refuseChannel
    | _ => Run.stall

def channelOf (node : Nat) : Run Nat := do
  let state ← get
  match state.queues.lookup node with
  | some channel => pure channel
  | none => do
    let (opened, _, _) := state.addChannel
    set { opened with queues := (node, state.channels.size) :: state.queues }
    pure state.channels.size

def descriptorAt : Location → Option Nat
  | ["dev", "fd", name] | ["proc", "self", "fd", name] => name.toNat?
  | _ => none

def openPath (opening : Shell.Opening) (path : String) : Run (Except FileFault Nat) := do
  let state ← get
  let add (stream : Stream) : Run (Except FileFault Nat) := do
    let (next, number) := (← get).addStream stream
    set next
    pure (.ok number)
  let again (descriptor : Nat) : Run (Except FileFault Nat) :=
    pure ((state.streamNumber? descriptor).elim (.error .missing) .ok)
  let access : Access := match opening with
    | .reading => ⟨true, false, false⟩
    | .appending => ⟨false, true, true⟩
    | .both => ⟨true, true, false⟩
    | _ => ⟨false, true, false⟩
  match state.files.locate state.current path with
  | .error fault => pure (.error fault)
  | .ok location =>
    match descriptorAt location, state.files.number? location, state.files.standing? location with
    | some descriptor, _, _ => again descriptor
    | _, _, some (.device .input) => again 0
    | _, _, some (.device .output) => again 1
    | _, _, some (.device .errors) => again 2
    | _, _, some (.device kind) => add (.device kind)
    | _, _, some (.utility _) =>
      if opening = .reading then add (.pending []) else pure (.error .denied)
    | _, _, some .directory =>
      if opening = .reading then add .directory else pure (.error .isDirectory)
    | _, some node, some .queue => do
      let channel ← channelOf node
      let reads := opening = .reading
      match ← add (if reads then .source channel else .sink channel) with
      | .ok number => do
        let kept := (← get).kept
        modify fun state => { state with kept := [(0, number)] :: kept }
        if opening ≠ .both then Run.awaitEvent (.partner channel reads)
        modify fun state => { state with kept }
        pure (.ok number)
      | .error fault => pure (.error fault)
    | _, some node, some _ =>
      match opening with
      | .reading | .appending | .both => add (.opened node 0 access)
      | .creating => pure (.error .occupied)
      | _ => do
        set { state with files := state.files.setContent node [] }
        add (.opened node 0 access)
    | _, _, _ =>
      if opening = .reading then pure (.error .missing)
      else if path.toList.getLast? = some Files.separator then pure (.error .isDirectory)
      else
        match state.files.store location [] (state.allowed Permission.ofFile) with
        | .error fault => pure (.error fault)
        | .ok files => do
          set { state with files }
          match files.number? location with
          | some node => add (.opened node 0 access)
          | none => pure (.error .missing)

end ChartManifests.Program
