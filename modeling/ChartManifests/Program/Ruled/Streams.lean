import ChartManifests.Program.Ruled.Store
import ChartManifests.Program.Utility.Launch
/-!
The files and commands that a program of rules reads from and writes to. Records come in piece by
piece, so a program sees no more of what comes in than it needs, and what follows is left to others.
-/

namespace ChartManifests.Program.Ruled

open Rules (Datum Expr Direction)
open Text (Bytes Expression)
open Utility (Launcher)

def pieceSize : Nat := 4096

def Source.more (source : Source) : Run Source := do
  match ← receive source.descriptor pieceSize with
  | .ok [] => pure { source with ended := true }
  | .ok piece =>
    if piece.length = pieceSize && (← isEndless source.descriptor) then Run.stall
    else pure { source with held := source.held ++ Text.charactersOf piece }
  | .error reason => Utility.fail 2 ("read error (" ++ reason.wording ++ ")")

def Source.rest : Nat → Source → Run Source
  | 0, source => pure source
  | bound + 1, source => do
    if source.ended then pure source else rest bound (← source.more)

def untilCharacter (stop : Char) : Nat → List Char → Source → Run (Option String × Source)
  | 0, _, source => pure (none, source)
  | bound + 1, seen, source => do
    let line := source.held.takeWhile (· ≠ stop)
    match source.held.drop line.length with
    | _ :: after => do
      pure (some (String.ofList (seen.reverse ++ line)), { source with held := after })
    | [] =>
      let seen := line.reverse ++ seen
      if !source.ended then untilCharacter stop bound seen (← { source with held := [] }.more)
      else if seen.isEmpty then pure (none, { source with held := [] })
      else pure (some (String.ofList seen.reverse), { source with held := [] })

def takeParagraph (source : Source) : Option String × Source :=
  let begun := source.held.dropWhile (· = '\n')
  if begun.isEmpty then (none, { source with held := [] })
  else
    let text := String.ofList begun
    match text.splitOn "\n\n" with
    | [] => (none, { source with held := [] })
    | first :: others =>
      let line := if first.toList.getLast? = some '\n' then String.ofList first.toList.dropLast
        else first
      (some line,
        { source with held := ("\n\n".intercalate others).toList.dropWhile (· = '\n') })

def untilExpression (expression : Expression) (source : Source) : Option String × Source :=
  match Expression.find false expression [] source.held with
  | some found =>
    if found.matched.isEmpty then (some (String.ofList source.held), { source with held := [] })
    else (some (String.ofList found.before), { source with held := found.after })
  | none =>
    if source.held.isEmpty then (none, source)
    else (some (String.ofList source.held), { source with held := [] })

def takeRecord (source : Source) : Work (Option String × Source) := do
  let separator ← textOf (← valueOf "RS")
  match separator.toList with
  | [character] => (untilCharacter character longestGathering [] source : Run _)
  | [] => do
    let whole ← (Source.rest longestGathering source : Run Source)
    pure (takeParagraph whole)
  | _ => do
    let found ← expression separator
    let whole ← (Source.rest longestGathering source : Run Source)
    pure (untilExpression found whole)

def newDescriptor (stream : Nat) : Work Nat := do
  let store ← get
  set { store with descriptor := store.descriptor + 1 }
  (modify fun state => state.connect store.descriptor stream : Run Unit)
  pure store.descriptor

def commandWords (command : String) : List String := ["/bin/sh", "-c", command]

def runCommand (launcher : Launcher) (command : String) : Work Nat := do
  flushAll
  match ← (launcher.finish (commandWords command) : Run _) with
  | .ok (.status code) => pure code
  | .ok (.signal number) => pure (256 + number)
  | .error reason => pure (startStatus reason)

def startCommand (launcher : Launcher) (command : String) (reads : Bool) :
    Work (Option (Nat × Nat)) := do
  flushAll
  let before ← (get : Run State)
  let (opened, source, sink) := before.addChannel
  let (theirs, ours) := if reads then (source, sink) else (sink, source)
  (set { opened.connect (if reads then 0 else 1) theirs with
    kept := [(0, ours)] :: opened.kept } : Run Unit)
  let started ← (launcher.start (commandWords command) : Run _)
  (modify fun after => { after with
    descriptors := before.descriptors, kept := before.kept } : Run Unit)
  match started with
  | .ok child => do pure (some (child, ← newDescriptor ours))
  | .error _ => pure none

def openSink (launcher : Launcher) (direction : Direction) (name : String) : Work Sink := do
  let isCommand : Bool := direction = .piping
  let sinks := (← get).sinks
  match sinks.find? fun sink => sink.name = name && sink.isCommand = isCommand with
  | some sink => pure sink
  | none =>
    if isCommand then
      match ← startCommand launcher name true with
      | some (child, descriptor) => pure ⟨name, true, descriptor, [], some child⟩
      | none => fault ("cannot open pipe \"" ++ name ++ "\"")
    else if name = "/dev/stderr" then pure ⟨name, false, 2, [], none⟩
    else
      let opening : Shell.Opening := if direction = .appending then .appending else .writing
      match ← (openPath opening name : Run _) with
      | .ok stream => do pure ⟨name, false, ← newDescriptor stream, [], none⟩
      | .error reason =>
        stop ("cannot open \"" ++ name ++ "\" for output (" ++ reason.wording ++ ")")

def Sink.add (sink : Sink) (content : Bytes) : Run Sink := do
  let added := { sink with held := content :: sink.held }
  let size := totalOf (added.held.map List.length)
  if sink.descriptor = 2 || pieceSize ≤ size || 256 < added.held.length then flushed added
  else pure added

def emit (launcher : Launcher) (target : Option (Direction × String)) (content : Bytes) :
    Work Unit := do
  let usual : Work Unit := do
    let output ← ((← get).output.add content : Run Sink)
    modify fun store => { store with output }
  match target with
  | none => usual
  | some (direction, name) =>
    if direction ≠ .piping && (name = "/dev/stdout" || name = "-") then usual
    else do
      let sink ← openSink launcher direction name
      let written ← (sink.add content : Run Sink)
      modify fun store => { store with
        sinks := written :: store.sinks.filter fun other =>
          other.name ≠ name || other.isCommand ≠ sink.isCommand }

def openSource (launcher : Launcher) (isCommand : Bool) (name : String) : Work (Option Source) := do
  let sources := (← get).sources
  match sources.find? fun source => source.name = name && source.isCommand = isCommand with
  | some source => pure (some source)
  | none =>
    if isCommand then
      match ← startCommand launcher name false with
      | some (child, descriptor) => pure (some ⟨name, true, descriptor, [], false, some child⟩)
      | none => pure none
    else if name = "-" || name = "/dev/stdin" then pure (some ⟨name, false, 0, [], false, none⟩)
    else
      match ← (openPath .reading name : Run _) with
      | .ok stream => do pure (some ⟨name, false, ← newDescriptor stream, [], false, none⟩)
      | .error _ => pure none

def recordFrom (launcher : Launcher) (isCommand : Bool) (name : String) :
    Work (Option (Option String)) := do
  match ← openSource launcher isCommand name with
  | none => pure none
  | some source => do
    let (record, after) ← takeRecord source
    modify fun store => { store with
      sources := after :: store.sources.filter fun other =>
        other.name ≠ name || other.isCommand ≠ isCommand }
    pure (some record)

def closeNamed (name : String) : Work Int := do
  let store ← get
  let sinks := store.sinks.filter (·.name = name)
  let sources := store.sources.filter (·.name = name)
  set { store with
    sinks := store.sinks.filter (·.name ≠ name), sources := store.sources.filter (·.name ≠ name) }
  let mut status : Int := -1
  for source in sources do
    status := ← (closeSource source : Run Nat)
  for sink in sinks do
    status := ← (closeSink sink : Run Nat)
  pure status

def assignment? (word : String) : Option (String × String) :=
  let characters := word.toList
  let name := characters.takeWhile Rules.Cursor.continuesName
  match name, characters.drop name.length with
  | first :: _, '=' :: value =>
    if Rules.Cursor.startsName first then
      some (String.ofList name,
        String.ofList (Rules.withoutEscapes (value.length + 1) value))
    else none
  | _, _ => none

/-- Opens the next file whose records are gone through, if there is one. Without any operand that
names a file that is what comes in. -/
def openMain : Nat → Work (Option Source)
  | 0 => pure none
  | bound + 1 => do
    let store ← get
    let count := (← valueOf "ARGC").toNumber.clamped 0 100000
    let open_ (name : String) : Work (Option Source) := do
      modify fun store => { store with readsFiles := true }
      setValue "FILENAME" (.text name)
      setValue "FNR" (.ofNat 0)
      if name = "-" || name = "/dev/stdin" then pure (some ⟨name, false, 0, [], false, none⟩)
      else
        match ← (openPath .reading name : Run _) with
        | .ok stream => do pure (some ⟨name, false, ← newDescriptor stream, [], false, none⟩)
        | .error reason => stop ("cannot open \"" ++ name ++ "\" (" ++ reason.wording ++ ")")
    if count ≤ store.operand then
      if store.readsFiles then pure none else open_ "-"
    else do
      set { store with operand := store.operand + 1 }
      let table ← items (← tableNumber "ARGV")
      let word ← textOf (table.get (.number store.operand))
      match word, assignment? word with
      | "", _ => openMain bound
      | _, some (name, value) => do
        setName name (.input value)
        openMain bound
      | _, none => open_ word

def nextRecord : Nat → Work (Option String)
  | 0 => pure none
  | bound + 1 => do
    match (← get).main with
    | some source => do
      let (record, after) ← takeRecord source
      match record with
      | some text => do
        modify fun store => { store with main := some after }
        for name in ["NR", "FNR"] do
          let count := (← valueOf name).toNumber
          setValue name (.number (count.add (.ofNat 1)))
        pure (some text)
      | none => do
        discard (closeSource after : Run Nat)
        modify fun store => { store with main := none }
        nextRecord bound
    | none => do
      match ← openMain 100000 with
      | some source => do
        modify fun store => { store with main := some source }
        nextRecord bound
      | none => pure none

end ChartManifests.Program.Ruled
