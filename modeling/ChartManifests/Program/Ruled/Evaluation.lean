import ChartManifests.Program.Ruled.Streams
/-!
What the expressions and statements of a program of rules do.

Everything recurses on a bound that no program reaches.
-/

namespace ChartManifests.Program.Ruled

open Rules (Datum Items Expr Statement Operation Comparison Key)
open Text (Bytes Expression)
open Utility (Launcher)

def calculate (operation : Operation) (left right : Double) : Double :=
  let of (result : Float) : Double := .resultOf [left, right] result
  match operation with
  | .add => of (left.float + right.float)
  | .subtract => of (left.float - right.float)
  | .multiply => of (left.float * right.float)
  | .divide => of (left.float / right.float)
  | .remainder => left.remainder right
  | .power => of (left.float ^ right.float)

def Comparison.ofNumbers (comparison : Comparison) (left right : Double) : Bool :=
  let (left, right) := (left.float, right.float)
  match comparison with
  | .less => left < right
  | .atMost => left ≤ right
  | .equal => left == right
  | .different => left != right
  | .atLeast => right ≤ left
  | .more => right < left

def Comparison.ofTexts (comparison : Comparison) (left right : String) : Bool :=
  match comparison with
  | .less => left < right
  | .atMost => left ≤ right
  | .equal => left = right
  | .different => left ≠ right
  | .atLeast => right ≤ left
  | .more => right < left

def compareData (comparison : Comparison) (left right : Datum) : Work Bool := do
  match left.number?, right.number? with
  | some left, some right => pure (Comparison.ofNumbers comparison left right)
  | _, _ => do pure (Comparison.ofTexts comparison (← textOf left) (← textOf right))

def keyOf (values : List Datum) : Work Key := do
  match values with
  | [.number value] =>
    match value.toInt? with
    | some whole =>
      if whole.natAbs < 2 ^ 31 then pure (.number whole)
      else do pure (.text (← textOf (.number value)))
    | none => do pure (.text (← textOf (.number value)))
  | [.unset] => pure (.text "")
  | [value] => do pure (.text (← textOf value))
  | _ => do
    let between ← textOf (← valueOf "SUBSEP")
    pure (.text (between.intercalate (← values.mapM textOf)))

def partOf (text : String) (first : Double) (length : Option Double) : String :=
  let size : Int := text.length
  let start := first.clamped (-(2 ^ 31)) (2 ^ 31)
  let count := match length with
    | some length => length.clamped (-(2 ^ 31)) (2 ^ 31)
    | none => 2 ^ 32
  let finish := min (start + count) (size + 1)
  let begun := max start 1
  String.ofList ((text.toList.drop (begun - 1).toNat).take (finish - begun).toNat)

def placeOf (wanted : List Char) : Nat → List Char → Nat
  | number, characters =>
    if wanted.isPrefixOf characters then number
    else
      match characters with
      | [] => 0
      | _ :: rest => placeOf wanted (number + 1) rest

def numberFunction (name : String) (value : Double) : Double :=
  let of (result : Float) : Double := .resultOf [value] result
  match name with
  | "sin" => of value.float.sin
  | "cos" => of value.float.cos
  | "exp" => of value.float.exp
  | "log" => of value.float.log
  | "sqrt" => of value.float.sqrt
  | _ =>
    match value.truncated? with
    | some whole => .ofInt whole
    | none => value

def secondsNow : Run Nat := do
  pure ((← get).files.now / Calendar.second)

def formatted (function : String) (pattern : String) (values : List Datum) : Work Bytes := do
  let plain ← textFormat "CONVFMT"
  let failed {α : Type} (written : Bytes) (text : String) : Work α := do
    if function = "printf" then
      let output ← ((← get).output.add written : Run Sink)
      modify fun store => { store with output }
    fault (text ++ function ++ "(\"" ++ pattern ++ "\")")
  match Rules.format plain pattern values with
  | .ok bytes => pure bytes
  | .error (.missing written) => failed written "not enough arguments passed to "
  | .error (.improper written number) =>
    failed written ("improper conversion(number " ++ toString number ++ ") in ")

def splitInto (table : Nat) (text : String) (kind : Rules.Separator) : Work Nat := do
  let parts := Rules.split kind text
  setItems table (Items.ofList (parts.map Datum.input))
  pure parts.length

mutual

def evaluate (launcher : Launcher) : Nat → Expr → Work Datum
  | 0, _ => (Run.stall : Run _)
  | bound + 1, expr => do
    match expr with
    | .number value => pure (.number value)
    | .text value => pure (.text value)
    | .pattern source => do
      let found := Expression.find false (← expression source) [] (← get).record.toList
      pure (.ofBool found.isSome)
    | .name name => getName name
    | .field index => do
      let place := (← evaluate launcher bound index).toNumber
      field (place.clamped (-100000) 100000)
    | .item table keys => do
      let key ← keyOf (← evaluateAll launcher bound keys)
      let number ← tableNumber table
      let sought := (← items number).seek true key
      setItems number sought
      pure (sought.get key)
    | .grouping values => do
      match ← evaluateAll launcher bound values with
      | [value] => pure value
      | several => do
        match ← keyOf several with
        | .text text => pure (.text text)
        | .number _ => pure .unset
    | .assign operation target value => do
      let right ← evaluate launcher bound value
      let result ← match operation with
        | none => pure right
        | some operation => do
          let left ← evaluate launcher bound target
          pure (.number (calculate operation left.toNumber right.toNumber))
      assign launcher bound target result
      pure result
    | .step before increases target => do
      let old := (← evaluate launcher bound target).toNumber
      let new := calculate (if increases then .add else .subtract) old (.ofNat 1)
      assign launcher bound target (.number new)
      pure (.number (if before then new else old))
    | .calculate operation left right => do
      let first ← evaluate launcher bound left
      let second ← evaluate launcher bound right
      pure (.number (calculate operation first.toNumber second.toNumber))
    | .sign negative inner => do
      let value := (← evaluate launcher bound inner).toNumber
      pure (.number (if negative then calculate .subtract (.ofNat 0) value else value))
    | .negation inner => do pure (.ofBool (!(← evaluate launcher bound inner).holds))
    | .compare comparison left right => do
      let first ← evaluate launcher bound left
      let second ← evaluate launcher bound right
      pure (.ofBool (← compareData comparison first second))
    | .fits negated left right => do
      let text ← textOf (← evaluate launcher bound left)
      let found := Expression.find false (← patternOf launcher bound right) [] text.toList
      pure (.ofBool (found.isSome != negated))
    | .both left right => do
      if (← evaluate launcher bound left).holds then
        pure (.ofBool (← evaluate launcher bound right).holds)
      else pure (.ofBool false)
    | .either left right => do
      if (← evaluate launcher bound left).holds then pure (.ofBool true)
      else do pure (.ofBool (← evaluate launcher bound right).holds)
    | .choose condition first second => do
      if (← evaluate launcher bound condition).holds then evaluate launcher bound first
      else evaluate launcher bound second
    | .within keys table => do
      let key ← keyOf (← evaluateAll launcher bound keys)
      let number ← tableNumber table
      let sought := (← items number).seek false key
      setItems number sought
      pure (.ofBool (sought.has key))
    | .joined left right => do
      let first ← textOf (← evaluate launcher bound left)
      let second ← textOf (← evaluate launcher bound right)
      pure (.text (first ++ second))
    | .call function arguments => call launcher bound function arguments
    | .builtin function arguments => builtin launcher bound function arguments
    | .getLine fromCommand source target => do
      match source with
      | none => do
        match ← nextRecord 100000 with
        | none => pure (.ofNat 0)
        | some record => do
          match target with
          | none => setRecord record
          | some place => assign launcher bound place (.input record)
          pure (.ofNat 1)
      | some source => do
        let name ← textOf (← evaluate launcher bound source)
        match ← recordFrom launcher fromCommand name with
        | none => pure (.ofInt (-1))
        | some none => pure (.ofNat 0)
        | some (some record) => do
          match target with
          | none => setRecord record
          | some place => assign launcher bound place (.input record)
          pure (.ofNat 1)

def evaluateAll (launcher : Launcher) : Nat → List Expr → Work (List Datum)
  | 0, _ => (Run.stall : Run _)
  | _ + 1, [] => pure []
  | bound + 1, expr :: rest => do
    let value ← evaluate launcher bound expr
    let others ← evaluateAll launcher bound rest
    pure (value :: others)

def patternOf (launcher : Launcher) : Nat → Expr → Work Expression
  | 0, _ => (Run.stall : Run _)
  | bound + 1, expr => do
    match expr with
    | .pattern source => expression source
    | _ => do expression (← textOf (← evaluate launcher bound expr))

def assign (launcher : Launcher) : Nat → Expr → Datum → Work Unit
  | 0, _, _ => (Run.stall : Run _)
  | bound + 1, target, value => do
    match target with
    | .name name => setName name value
    | .field index => do
      let place := (← evaluate launcher bound index).toNumber
      setField (place.clamped (-100000) 100000) value
    | .item table keys => do
      let key ← keyOf (← evaluateAll launcher bound keys)
      let number ← tableNumber table
      setItems number ((← items number).set key value)
    | .grouping [inner] => assign launcher bound inner value
    | _ => pure ()

def call (launcher : Launcher) : Nat → String → List Expr → Work Datum
  | 0, _, _ => (Run.stall : Run _)
  | bound + 1, name, arguments => do
    breathe
    match (← get).program.functions.find? (·.name = name) with
    | none => stop ("function " ++ name ++ " never defined")
    | some function => do
      let handed ← handOver launcher bound arguments
      let missing := List.replicate (function.parameters.length - handed.length) (Slot.unset none)
      let numbers ← (handed ++ missing).mapM addSlot
      let before := (← get).locals
      modify fun store => { store with locals := function.parameters.zip numbers }
      let result ← tryCatch (do
          perform launcher bound (.block function.body)
          pure Datum.unset)
        fun jump => match jump with
          | .give value => pure value
          | other => do
            modify fun store => { store with locals := before }
            throw other
      modify fun store => { store with locals := before }
      pure result

def handOver (launcher : Launcher) : Nat → List Expr → Work (List Slot)
  | 0, _ => (Run.stall : Run _)
  | _ + 1, [] => pure []
  | bound + 1, expr :: rest => do
    let slot ← match expr with
      | .name name => do
        if name = "NF" then pure (Slot.value (← getName name))
        else
          let number ← slotNumber name
          match ← slotAt number with
          | .unset _ => pure (.unset (some number))
          | other => pure other
      | _ => do pure (.value (← evaluate launcher bound expr))
    let others ← handOver launcher bound rest
    pure (slot :: others)

def builtin (launcher : Launcher) : Nat → String → List Expr → Work Datum
  | 0, _, _ => (Run.stall : Run _)
  | bound + 1, name, arguments => do
    let textAt (number : Nat) : Work String := do
      match arguments[number]? with
      | some expr => do textOf (← evaluate launcher bound expr)
      | none => pure ""
    let numberAt (number : Nat) : Work Double := do
      match arguments[number]? with
      | some expr => do pure (← evaluate launcher bound expr).toNumber
      | none => pure (.ofNat 0)
    match name, arguments with
    | "length", [] => do pure (.ofNat (← get).record.length)
    | "length", [.name table] => do
      match ← slotAt (← slotNumber table) with
      | .table number => do pure (.ofNat (← items number).count)
      | _ => do pure (.ofNat (← textAt 0).length)
    | "length", _ => do pure (.ofNat (← textAt 0).length)
    | "index", _ => do
      let text ← textAt 0
      let wanted ← textAt 1
      pure (.ofNat (placeOf wanted.toList 1 text.toList))
    | "substr", _ => do
      let text ← textAt 0
      let first ← numberAt 1
      let length ← if arguments.length = 3 then some <$> numberAt 2 else pure none
      pure (.text (partOf text first length))
    | "split", text :: .name table :: rest => do
      let whole ← textOf (← evaluate launcher bound text)
      let kind ← match rest with
        | [.pattern source] => do pure (.expression (← expression source))
        | [other] => do separator (← textOf (← evaluate launcher bound other))
        | _ => do separator (← textOf (← valueOf "FS"))
      pure (.ofNat (← splitInto (← tableNumber table) whole kind))
    | "sub", pattern :: by_ :: rest | "gsub", pattern :: by_ :: rest => do
      let found ← patternOf launcher bound pattern
      let replacement ← textOf (← evaluate launcher bound by_)
      let target := rest.headD (.field (.number (.ofNat 0)))
      let text ← textOf (← evaluate launcher bound target)
      let (result, count) := Rules.substitute found (name = "gsub") replacement text
      if 0 < count then assign launcher bound target (.text result)
      pure (.ofNat count)
    | "match", [text, pattern] => do
      let whole ← textOf (← evaluate launcher bound text)
      let (start, length) : Int × Int :=
        match Expression.find false (← patternOf launcher bound pattern) [] whole.toList with
        | some found => ((found.before.length : Int) + 1, found.matched.length)
        | none => (0, -1)
      setValue "RSTART" (.ofInt start)
      setValue "RLENGTH" (.ofInt length)
      pure (.ofInt start)
    | "sprintf", pattern :: values => do
      let format ← textOf (← evaluate launcher bound pattern)
      let bytes ← formatted "sprintf" format (← evaluateAll launcher bound values)
      pure (.text (Text.ofOctets bytes))
    | "atan2", _ => do
      let first ← numberAt 0
      let second ← numberAt 1
      pure (.number (.ofFloat (Float.atan2 first.float second.float)))
    | "rand", _ => do
      let store ← get
      let (number, chance) := store.chance.next
      set { store with chance }
      pure (.number (calculate .divide (.ofNat number) (.ofNat Rules.Chance.greatest)))
    | "srand", _ => do
      let seed ← match arguments with
        | [expr] => evaluate launcher bound expr
        | _ => do pure (Datum.ofNat (← (secondsNow : Run Nat)))
      let old := (← get).seed
      let whole := (seed.toNumber.clamped 0 (2 ^ 32 - 1)).toNat
      modify fun store => { store with seed, chance := .ofSeed whole }
      pure old
    | "tolower", _ => do pure (.text (← textAt 0).toLower)
    | "toupper", _ => do pure (.text (← textAt 0).toUpper)
    | "system", _ => do pure (.ofNat (← runCommand launcher (← textAt 0)))
    | "close", _ => do pure (.ofInt (← closeNamed (← textAt 0)))
    | "fflush", _ => do
      flushAll
      pure (.ofNat 0)
    | "systime", _ => do pure (.ofNat (← (secondsNow : Run Nat)))
    | "sin", _ | "cos", _ | "exp", _ | "log", _ | "sqrt", _ | "int", _ => do
      pure (.number (numberFunction name (← numberAt 0)))
    | _, _ => fault ("function " ++ name ++ " cannot be called this way")

def perform (launcher : Launcher) : Nat → Statement → Work Unit
  | 0, _ => (Run.stall : Run _)
  | bound + 1, statement => do
    breathe
    match statement with
    | .nothing => pure ()
    | .block body => performAll launcher bound body
    | .evaluate value => discard (evaluate launcher bound value)
    | .print isFormatted values target => do
      let data ← evaluateAll launcher bound values
      let content ← if isFormatted then do
          let pattern ← textOf (data.headD .unset)
          formatted "printf" pattern (data.drop 1)
        else do
          let plain ← textFormat "OFMT"
          let between ← textOf (← valueOf "OFS")
          let behind ← textOf (← valueOf "ORS")
          let texts ← if data.isEmpty then do pure [(← get).record]
            else pure (data.map (·.toText plain))
          pure (Text.octets (between.intercalate texts ++ behind))
      let place ← match target with
        | none => pure none
        | some (direction, expr) => do
          pure (some (direction, ← textOf (← evaluate launcher bound expr)))
      emit launcher place content
    | .branch condition first second => do
      if (← evaluate launcher bound condition).holds then perform launcher bound first
      else
        match second with
        | some other => perform launcher bound other
        | none => pure ()
    | .loop condition body step => goAround launcher bound condition body step
    | .loopAfter body condition => do
      if ← performTurn launcher bound body then
        if (← evaluate launcher bound condition).holds then
          goAround launcher bound (some condition) body none
    | .each name table body => do
      let number ← tableNumber table
      let (keys, lists) := (← items number).keys
      setItems number lists
      goThrough launcher bound name keys body
    | .delete table keys => do
      let number ← tableNumber table
      match keys with
      | none => setItems number .empty
      | some keys => do
        let key ← keyOf (← evaluateAll launcher bound keys)
        setItems number ((← items number).remove key)
    | .next => throw .next
    | .nextFile => throw .nextFile
    | .exit status => do
      match status with
      | none => pure ()
      | some expr => do
        let code := (← evaluate launcher bound expr).toNumber.clamped (-(2 ^ 31)) (2 ^ 31)
        modify fun store => { store with status := (code % 256).toNat }
      throw .exit
    | .give value => do
      match value with
      | none => throw (.give .unset)
      | some expr => do throw (.give (← evaluate launcher bound expr))
    | .leave => throw .leave
    | .again => throw .again

def performAll (launcher : Launcher) : Nat → List Statement → Work Unit
  | 0, _ => (Run.stall : Run _)
  | _ + 1, [] => pure ()
  | bound + 1, statement :: rest => do
    perform launcher bound statement
    performAll launcher bound rest

def performTurn (launcher : Launcher) : Nat → Statement → Work Bool
  | 0, _ => (Run.stall : Run _)
  | bound + 1, body =>
    tryCatch (do
        perform launcher bound body
        pure true)
      fun jump => match jump with
        | .leave => pure false
        | .again => pure true
        | other => throw other

def goAround (launcher : Launcher) : Nat → Option Expr → Statement → Option Expr → Work Unit
  | 0, _, _, _ => (Run.stall : Run _)
  | bound + 1, condition, body, step => do
    breathe
    let holds ← match condition with
      | none => pure true
      | some expr => do pure (← evaluate launcher bound expr).holds
    if holds then
      if ← performTurn launcher bound body then
        match step with
        | none => pure ()
        | some expr => discard (evaluate launcher bound expr)
        goAround launcher bound condition body step

def goThrough (launcher : Launcher) : Nat → String → List String → Statement → Work Unit
  | 0, _, _, _ => (Run.stall : Run _)
  | _ + 1, _, [], _ => pure ()
  | bound + 1, name, key :: rest, body => do
    setName name (.text key)
    if ← performTurn launcher bound body then goThrough launcher bound name rest body

end

end ChartManifests.Program.Ruled
