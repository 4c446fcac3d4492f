import ChartManifests.Program.Utility.Basic
import ChartManifests.Rules.Fields
import ChartManifests.Rules.Format
import ChartManifests.Rules.Items
/-!
What a program of rules remembers while it runs: what its names stand for, the record and its
fields, and the files and commands that it reads from and writes to.
-/

namespace ChartManifests.Program.Ruled

open Rules (Datum Items Expr)
open Text (Bytes Expression)

/-- What a name stands for: a value, a table, or nothing yet. A name without a value that was handed
to a function can still become a table, and then its origin becomes that table too. -/
inductive Slot
  | unset (origin : Option Nat)
  | value (datum : Datum)
  | table (number : Nat)
deriving Repr

/-- Where records are taken from: a file or a command, by its name. `held` has come in and was not
used yet. -/
structure Source where
  name : String
  isCommand : Bool
  descriptor : Nat
  held : List Char
  ended : Bool
  child : Option Nat

/-- Where text is written to: a file or a command, by its name. `held` was not written yet, the
latest in front. -/
structure Sink where
  name : String
  isCommand : Bool
  descriptor : Nat
  held : List Bytes
  child : Option Nat

inductive Jump
  | next
  | nextFile
  | exit
  | give (value : Datum)
  | leave
  | again
deriving Repr

/-- What a program of rules remembers. `main` is the file whose records are gone through, `operand`
the next of the operands, and `readsFiles` tells whether one of them named a file; `steps` counts
what has been done since others had their turn. -/
structure Store where
  program : Rules.Rulebook
  slots : Array Slot
  tables : Array Items
  globals : Std.HashMap String Nat
  locals : List (String × Nat)
  record : String
  fields : Option (Array Datum)
  main : Option Source
  operand : Nat
  readsFiles : Bool
  sources : List Source
  sinks : List Sink
  output : Sink
  expressions : Std.HashMap String Expression
  ranges : List Nat
  status : Nat
  descriptor : Nat
  seed : Datum
  chance : Rules.Chance
  steps : Nat

abbrev Work (α : Type) : Type := ExceptT Jump (StateT Store Run) α

def firstDescriptor : Nat := 2048

def Sink.plain : Sink := ⟨"/dev/stdout", false, 1, [], none⟩

def Store.beginning (program : Rules.Rulebook) : Store where
  program := program
  slots := #[]
  tables := #[]
  globals := {}
  locals := []
  record := ""
  fields := none
  main := none
  operand := 1
  readsFiles := false
  sources := []
  sinks := []
  output := .plain
  expressions := {}
  ranges := []
  status := 0
  descriptor := firstDescriptor
  seed := .number (.ofNat 0)
  chance := .ofSeed 0
  steps := 0

def longestTurn : Nat := 64

def breathe : Work Unit := do
  let store ← get
  if store.steps < longestTurn then set { store with steps := store.steps + 1 }
  else do
    set { store with steps := 0 }
    Run.pass longestTurn

def addSlot (slot : Slot) : Work Nat := do
  let store ← get
  set { store with slots := store.slots.push slot }
  pure store.slots.size

def slotNumber (name : String) : Work Nat := do
  let store ← get
  match store.locals.lookup name, store.globals[name]? with
  | some number, _ => pure number
  | none, some number => pure number
  | none, none => do
    let number ← addSlot (.unset none)
    modify fun store => { store with globals := store.globals.insert name number }
    pure number

def slotAt (number : Nat) : Work Slot := do
  pure (((← get).slots[number]?).getD (.unset none))

def setSlot (number : Nat) (slot : Slot) : Work Unit :=
  modify fun store => { store with slots := store.slots.setIfInBounds number slot }

def valueOf (name : String) : Work Datum := do
  match ← slotAt (← slotNumber name) with
  | .value datum => pure datum
  | _ => pure .unset

def setValue (name : String) (datum : Datum) : Work Unit := do
  setSlot (← slotNumber name) (.value datum)

def textFormat (name : String) : Work (Double → String) := do
  match ← valueOf name with
  | .text pattern | .input pattern => pure (Rules.byFormat pattern)
  | _ => pure (Rules.byFormat "%.6g")

def textOf (datum : Datum) : Work String := do
  match datum with
  | .number _ => do pure (datum.toText (← textFormat "CONVFMT"))
  | _ => pure (datum.toText fun _ => "")

def placeReport : Work String := do
  let name ← textOf (← valueOf "FILENAME")
  let inFile ← textOf (Datum.number (← valueOf "FNR").toNumber)
  let inAll ← textOf (Datum.number (← valueOf "NR").toNumber)
  pure ("\n\tFILENAME=\"" ++ name ++ "\" FNR=" ++ inFile ++ " NR=" ++ inAll)

def flushed (sink : Sink) : Run Sink := do
  let content := joined sink.held
  if sink.descriptor = 1 then put content
  else if !content.isEmpty then discard (write sink.descriptor content)
  pure { sink with held := [] }

def flushAll : Work Unit := do
  let store ← get
  let output ← flushed store.output
  let sinks ← store.sinks.mapM fun sink => (flushed sink : Run Sink)
  modify fun store => { store with output, sinks }

def closeSink (sink : Sink) : Run Nat := do
  discard (flushed sink)
  if sink.descriptor ≠ 1 && sink.descriptor ≠ 2 then
    modify fun state => state.disconnect sink.descriptor
  match sink.child with
  | some child => do
    match ← Run.ending child with
    | .status code => pure code
    | .signal number => pure (256 + number)
  | none => pure 0

def closeSource (source : Source) : Run Nat := do
  if source.descriptor ≠ 0 then modify fun state => state.disconnect source.descriptor
  match source.child with
  | some child => do
    match ← Run.ending child with
    | .status code => pure code
    | .signal number => pure (256 + number)
  | none => pure 0

def closeAll : Work Unit := do
  let store ← get
  for sink in store.sinks do
    discard (closeSink sink : Run Nat)
  let output ← flushed store.output
  modify fun store => { store with output, sinks := [] }

def stop {α : Type} (text : String) : Work α := do
  closeAll
  (Utility.fail 2 text : Run α)

def fault {α : Type} (text : String) : Work α := do
  stop ("run time error: " ++ text ++ (← placeReport))

def tableAt : Nat → Nat → Work Nat
  | 0, _ => fault "too many names for a table"
  | bound + 1, number => do
    match ← slotAt number with
    | .table table => pure table
    | .unset none => do
      let store ← get
      set { store with tables := store.tables.push .empty }
      setSlot number (.table store.tables.size)
      pure store.tables.size
    | .unset (some origin) => do
      let table ← tableAt bound origin
      setSlot number (.table table)
      pure table
    | .value _ => fault "a value is used as a table"

def tableNumber (name : String) : Work Nat := do
  tableAt ((← get).slots.size + 1) (← slotNumber name)

def items (table : Nat) : Work Items := do
  pure (((← get).tables[table]?).getD .empty)

def setItems (table : Nat) (items : Items) : Work Unit :=
  modify fun store => { store with tables := store.tables.setIfInBounds table items }

def expression (text : String) : Work Expression := do
  match (← get).expressions[text]? with
  | some known => pure known
  | none =>
    match Rules.expressionOf text with
    | .ok found => do
      modify fun store => { store with expressions := store.expressions.insert text found }
      pure found
    | .error reason =>
      fault ("regular expression compile failed (" ++ reason.message ++ ")\n" ++ text)

def separator (text : String) : Work Rules.Separator := do
  match Rules.separatorOf text with
  | .ok (.expression _) => do pure (.expression (← expression text))
  | .ok other => pure other
  | .error reason =>
    fault ("regular expression compile failed (" ++ reason.message ++ ")\n" ++ text)

def fields : Work (Array Datum) := do
  let store ← get
  match store.fields with
  | some fields => pure fields
  | none => do
    let separators ← textOf (← valueOf "FS")
    let paragraphs := (← textOf (← valueOf "RS")) = ""
    let kind ← separator separators
    let parts ← if !paragraphs then pure (Rules.split kind store.record)
      else match kind with
        | .character value => do
          pure ((store.record.splitOn "\n").flatMap fun line =>
            if line = "" then [""] else Rules.split (.character value) line)
        | .expression _ => do
          let either ← expression ("(" ++ separators ++ ")|\n")
          pure (Rules.split (.expression either) store.record)
        | _ => pure (Rules.split kind store.record)
    let fields := (parts.map Datum.input).toArray
    modify fun store => { store with fields := some fields }
    pure fields

def setRecord (text : String) : Work Unit :=
  modify fun store => { store with record := text, fields := none }

def setFields (fields : Array Datum) : Work Unit := do
  let between ← textOf (← valueOf "OFS")
  let texts ← fields.toList.mapM textOf
  modify fun store => { store with
    record := between.intercalate texts, fields := some fields }

def mostFields : Int := 32767

def field (index : Int) : Work Datum := do
  if index < 0 then fault ("negative field index $" ++ toString index)
  else if index = 0 then do pure (.input (← get).record)
  else do pure (((← fields)[index.toNat - 1]?).getD .unset)

def resized (fields : Array Datum) (count : Nat) : Array Datum :=
  fields.take count ++ Array.replicate (count - fields.size) (.input "")

def setField (index : Int) (datum : Datum) : Work Unit := do
  if index < 0 then fault ("negative field index $" ++ toString index)
  else if mostFields < index then stop ("program limit exceeded: maximum number of fields size="
    ++ toString mostFields)
  else if index = 0 then do setRecord (← textOf datum)
  else
    let old ← fields
    let wide := resized old (max old.size index.toNat)
    setFields (wide.setIfInBounds (index.toNat - 1) datum)

def getName (name : String) : Work Datum := do
  if name = "NF" then do pure (.ofNat (← fields).size)
  else do valueOf name

def setName (name : String) (datum : Datum) : Work Unit := do
  match name with
  | "NF" =>
    let count := datum.toNumber.clamped (-1) (mostFields + 1)
    if count < 0 then fault "negative value assigned to NF"
    else do setFields (resized (← fields) count.toNat)
  | "FS" | "RS" => do
    discard fields
    setValue name datum
  | _ => do
    let number ← slotNumber name
    match ← slotAt number with
    | .table _ => fault ("assignment to table " ++ name)
    | _ => setSlot number (.value datum)

end ChartManifests.Program.Ruled
