import ChartManifests.Program.Rich.Testing
import ChartManifests.Program.Transformation
/-!
Declarations in the rich shell: what is marked on parameters, parameters that belong to a function,
what is handed on or closed to changes, and parameters that are taken away.
-/

namespace ChartManifests.Program.Rich

open Shell.Calculation (Fault Place)

def allParameters (state : State) : List Parameter :=
  let told : List Parameter :=
    ["BASHOPTS", "BASH_LINENO", "BASH_SOURCE", "FUNCNAME", "PIPESTATUS", "SHELLOPTS", "_"].filterMap
      fun name => (state.contentOf name).map fun content =>
        { Parameter.unknown name with
          content := some content, fixed := name = "BASHOPTS" || name = "SHELLOPTS" }
  let empty : List Parameter := ["BASH_ALIASES", "BASH_ARGC", "BASH_ARGV", "BASH_CMDS", "DIRSTACK",
    "GROUPS"].map fun name => { Parameter.unknown name with content := some (.list []) }
  let shown := told ++ empty
  ((state.parameters.filter fun parameter =>
    !shown.any fun other => other.name = parameter.name) ++ shown).mergeSort
      fun left right => left.name ≤ right.name

def hasMark (parameter : Parameter) (letter : Char) : Bool :=
  parameter.attributes.toList.contains letter

def declarationsOf (state : State) (marks : List Char) : String :=
  String.join (((allParameters state).filter fun parameter =>
    marks.all (hasMark parameter)).map fun parameter =>
      parameter.declaration parameter.content ++ "\n")

def declarationOf? (state : State) (name : String) : Option String :=
  match state.find name with
  | some parameter => some (parameter.declaration parameter.content)
  | none =>
    (state.contentOf name).map fun content =>
      { Parameter.unknown name with content := some content }.declaration (some content)

def listing (state : State) : String :=
  String.join (((allParameters state).filterMap Parameter.listed).map (· ++ "\n"))

structure Marks where
  set_ : List Char
  taken : List Char

def marksOf (name : String) (allowed : List Char) :
    List String → Deed (Marks × List String)
  | [] => pure (⟨[], []⟩, [])
  | word :: rest =>
    match word.toList with
    | ['-', '-'] => pure (⟨[], []⟩, rest)
    | sign :: letter :: letters =>
      if sign = '-' || (sign = '+' && name ≠ "export" && name ≠ "readonly") then
        match (letter :: letters).find? fun other => !allowed.contains other with
        | some odd => do
          blame name (String.singleton sign ++ String.singleton odd ++ ": invalid option")
          misused name
        | none => do
          let (marks, operands) ← marksOf name allowed rest
          let given := letter :: letters
          pure (if sign = '-' then { marks with set_ := given ++ marks.set_ }
            else { marks with taken := given ++ marks.taken }, operands)
      else pure (⟨[], []⟩, word :: rest)
    | _ => pure (⟨[], []⟩, word :: rest)

def Marks.onto (marks : Marks) (state : State) (name : String) : State :=
  let has (letter : Char) : Bool := marks.set_.contains letter
  let lacks (letter : Char) : Bool := marks.taken.contains letter
  let shaped := if has 'A' then state.shaped name true
    else if has 'a' then state.shaped name false else state
  shaped.change name fun parameter =>
    { parameter with
      integer := (parameter.integer || has 'i') && !lacks 'i'
      exported := (parameter.exported || has 'x') && !lacks 'x'
      refers := (parameter.refers || has 'n') && !lacks 'n'
      letters := if has 'l' then .lower else if has 'u' then .upper
        else if lacks 'l' || lacks 'u' then .kept else parameter.letters }

structure Operand where
  place : Place
  appends : Bool
  value : Option String

def operandOf (word : String) : Operand :=
  let characters := word.toList
  let name := Shell.nameOf characters
  let behind := characters.drop name.length
  let length := match behind with
    | '[' :: _ => (Shell.subscriptLength 0 behind).getD 0
    | _ => 0
  let subscript := if length = 0 then none
    else some (String.ofList ((behind.take (length - 1)).drop 1))
  let place : Place := ⟨String.ofList name, subscript⟩
  match behind.drop length with
  | '=' :: value => ⟨place, false, some (String.ofList value)⟩
  | '+' :: '=' :: value => ⟨place, true, some (String.ofList value)⟩
  | [] => ⟨place, false, none⟩
  | _ => ⟨⟨"", none⟩, false, none⟩

def makeLocal (name : String) : Run Unit := do
  let state ← get
  match state.locals with
  | none => pure ()
  | some kept =>
    if kept.any fun entry => entry.1 = name then pure ()
    else
      let old := state.find name
      let fresh := { Parameter.unknown name with exported := old.any fun other => other.exported }
      let begun := if state.isOn "localvar_inherit" then state
        else state.putBack name (some fresh)
      let placed := if name = placeName then { begun with place := .first } else begun
      set { placed with locals := some ((name, old) :: kept) }

def assignOperand (name : String) (operand : Operand) (value : String) : Deed Bool := do
  match assignPlace (← get) operand.place operand.appends value with
  | .ok state => do
    set state
    pure true
  | .error (.fixed fixed) => do
    let text := fixed ++ ": readonly variable"
    if name = "export" || name = "readonly" then complain text else blame name text
    pure false
  | .error fault => do
    blame name fault.message
    (throw Departure.refused : Run Bool)

def declareOne (name : String) (marks : Marks) (isLocal : Bool) (word : String) : Deed Bool := do
  let operand := operandOf word
  let place := operand.place
  if !isParameterName place.name then do
    blame name ("`" ++ word ++ "': not a valid identifier")
    pure false
  else do
    if isLocal then makeLocal place.name
    let state ← get
    let target := if marks.set_.contains 'n' || marks.taken.contains 'n' then place.name
      else state.referred 10 place.name
    if state.isFixed target && (operand.value.isSome || marks.taken.contains 'r') then do
      let text := target ++ ": readonly variable"
      if name = "export" || name = "readonly" then complain text else blame name text
      pure false
    else do
      let shaped := if place.subscript.isSome && !state.hasItems target && !marks.set_.contains 'A'
        then state.shaped target false else state
      let refers := marks.set_.contains 'n'
      set (({ marks with set_ := marks.set_.filter (· ≠ 'n') } : Marks).onto shaped target)
      let assigned ← match operand.value with
        | some value =>
          if refers then do
            modify fun state => state.store target value
            pure true
          else assignOperand name operand value
        | none => pure true
      modify fun state => state.change target fun parameter =>
        { parameter with
          refers := (parameter.refers || refers) && !marks.taken.contains 'n'
          fixed := parameter.fixed || marks.set_.contains 'r' }
      pure assigned

def describeFunctions (operands : List String) (namesOnly : Bool) : Run Nat := do
  let state ← get
  let names := (state.functions.map Prod.fst).mergeSort fun left right => left ≤ right
  if operands.isEmpty then do
    for name in names do
      writeText 1 (if namesOnly then "declare -f " ++ name ++ "\n" else name ++ " () \n")
    pure 0
  else do
    let mut status := 0
    for name in operands do
      if names.contains name then writeText 1 (name ++ "\n") else status := 1
    pure status

def declare (name : String) (arguments : List String) : Deed Nat := do
  let (marks, operands) ← marksOf name "aAfFgiIlnrtuxp".toList arguments
  let state ← get
  let inFunction := state.locals.isSome
  let isLocal := inFunction && !marks.set_.contains 'g'
  let asked := marks.set_.filter fun letter => letter ≠ 'p' && letter ≠ 'g'
  if name = "local" && !inFunction then quit name "can only be used in a function" 1
  else if marks.set_.contains 'f' || marks.set_.contains 'F' then
    describeFunctions operands (marks.set_.contains 'F')
  else if operands.isEmpty then do
    if name = "local" then
      let names := ((state.locals.getD []).map Prod.fst).mergeSort fun left right => left ≤ right
      writeText 1 (String.join ((names.filterMap (declarationOf? state)).map (· ++ "\n")))
    else
      writeText 1 (if marks.set_.isEmpty then listing state else declarationsOf state asked)
    pure 0
  else if marks.set_.contains 'p' then do
    let mut status := 0
    for word in operands do
      match declarationOf? state word with
      | some text => writeText 1 (text ++ "\n")
      | none =>
        blame name (word ++ ": not found")
        status := 1
    pure status
  else do
    let mut status := 0
    for word in operands do
      if !(← declareOne name marks isLocal word) then status := 1
    pure status

def markAll (name : String) (mark : Char) (arguments : List String) : Deed Nat := do
  let allowed := if name = "export" then "fnp".toList else "aAfp".toList
  let (marks, operands) ← marksOf name allowed arguments
  if operands.isEmpty then do
    writeText 1 (declarationsOf (← get) [mark])
    pure 0
  else if marks.set_.contains 'f' then do
    let state ← get
    let mut status := 0
    for word in operands do
      if !state.functions.any fun entry => entry.1 = word then
        blame name (word ++ ": not a function")
        status := 1
    pure status
  else do
    let kinds := marks.set_.filter fun letter => letter = 'a' || letter = 'A'
    let wanted : Marks := if name = "export" && marks.set_.contains 'n' then ⟨[], ['x']⟩
      else ⟨mark :: kinds, []⟩
    let mut status := 0
    for word in operands do
      if !(← declareOne name wanted false word) then status := 1
    pure status

def unsetParameter (place : Place) : Run Bool := do
  let state ← get
  if state.isFixed place.name then do
    blame "unset" (place.name ++ ": cannot unset: readonly variable")
    pure false
  else
    match place.subscript with
    | none => do
      set (state.unset place.name)
      pure true
    | some subscript =>
      if subscript = "@" || subscript = "*" then do
        set (state.change place.name fun parameter =>
          { parameter with content := parameter.content.map fun content => match content with
            | .table _ => .table []
            | _ => .list [] })
        pure true
      else
        match Calculation.key state place with
        | .ok (some key, after) => do
          set (after.removeItem place.name key)
          pure true
        | .ok (none, _) => do
          blame "unset" ("[" ++ subscript ++ "]: bad array subscript")
          pure false
        | .error fault => abandon fault

def unset (arguments : List String) : Deed Nat := do
  let (given, operands) ← letters "unset" ['f', 'v', 'n'] arguments
  let mut status := 0
  for word in operands do
    let state ← get
    let operand := operandOf word
    let place := if given.contains 'n' then operand.place
      else Calculation.target state operand.place
    let isName := isParameterName place.name && operand.value.isNone
    if given.contains 'f' || (!given.contains 'v' && (!isName || (state.find place.name).isNone))
    then do
      modify fun state => { state with functions := state.functions.filter fun entry =>
        entry.1 ≠ word }
    else if !isName then do
      blame "unset" ("`" ++ word ++ "': not a valid identifier")
      status := 1
    else if !(← unsetParameter place) then status := 1
  pure status

def evaluate (arguments : List String) : Run Nat := do
  if arguments.isEmpty then failing "let" "expression expected" 1
  else do
    let mut last : Int := 0
    for word in arguments do
      match calculate (← get) word with
      | .ok (value, state) => do
        set state
        last := value
      | .error (.unbound name) => abandon (.unbound name)
      | .error fault => return (← failing "let" fault.message 1)
    pure (if last = 0 then 1 else 0)

end ChartManifests.Program.Rich
