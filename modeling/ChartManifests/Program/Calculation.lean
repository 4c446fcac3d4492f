import ChartManifests.Program.Items
import ChartManifests.Shell.Calculation
/-!
Calculations of the rich shell, on whole numbers of 64 bits. The value of a parameter is a
calculation again, and so is the subscript of an item in a list; what is assigned changes the state.
A calculation is worked out while it is read, and what does not matter is read but not worked out.
-/

namespace ChartManifests.Program

open Shell.Arithmetic (wrapped truth word)
open Shell.Calculation (Fault Place Token)

/-- How far a calculation is: its whole text, the token that was read last and where it began, what
is left of the text, and the state. -/
structure Calculating where
  whole : List Char
  token : Token
  here : List Char
  rest : List Char
  state : State

namespace Calculation

abbrev Work (α : Type) : Type := StateT Calculating (Except Fault) α

def failAt {α : Type} (reason : String) (token : List Char) : Work α := do
  throw (.expression (String.ofList (← get).whole) reason (String.ofList token))

def fail {α : Type} (reason : String) : Work α := do
  failAt reason (← get).here

def advance : Work Unit := do
  let progress ← get
  match Shell.Calculation.take progress.token progress.rest with
  | .ok ⟨token, here, rest⟩ =>
    set { progress with
      token, rest
      here := if token = Token.finished then progress.here else here }
  | .error ⟨reason, token⟩ => failAt reason token

def token : Work Token := do pure (← get).token

def isAt (operator : String) : Work Bool := do pure ((← get).token = .operator operator)

def powerOf (base : Int) (exponent : Nat) : Int :=
  let rec go : Nat → Int → Nat → Int → Int
    | 0, _, _, result => result
    | bound + 1, base, exponent, result =>
      if exponent = 0 then result
      else
        go bound (wrapped (base * base)) (exponent / 2)
          (if exponent % 2 = 1 then wrapped (result * base) else result)
  go 64 base exponent 1

def levels : List (List String) :=
  [["|"], ["^"], ["&"], ["==", "!="], ["<=", ">=", "<", ">"], ["<<", ">>"], ["+", "-"],
    ["*", "/", "%"]]

def applied? (operator : String) (left right : Int) : Option Int :=
  match Shell.Arithmetic.apply operator left right with
  | .ok value => some value
  | .error _ => none

def plainKey? (state : State) (place : Place) : Option ItemKey :=
  if state.isTable place.name then place.subscript.map ItemKey.entry
  else match place.subscript with
    | none => some (.index 0)
    | some _ => none

def indexAt (state : State) (name : String) (value : Int) : Option Nat :=
  let size : Int := ((state.contentOf name).map Content.behind).getD 0
  let index := if value < 0 then size + value else value
  if index < 0 then none else some index.toNat

def placeOf (name : String) (subscript : Option String) : Place :=
  let characters := name.toList
  let front := characters.takeWhile (· ≠ '[')
  match subscript, characters.drop front.length with
  | none, _ :: behind => ⟨String.ofList front, some (String.ofList behind.dropLast)⟩
  | _, _ => ⟨name, subscript⟩

/-- Stores an item, with its letters changed as the parameter asks for. A parameter that tells of
the shell itself takes up what is assigned to it. -/
def stored (state : State) (place : Place) (key : ItemKey) (value : String) : State :=
  let letters := ((state.find place.name).map Parameter.letters).getD .kept
  let text := letters.applied value
  let whole := place.subscript.isNone && !state.hasItems place.name
  let told := match place.name with
    | "PATH" => state.withExtras fun extras => { extras with remembered := [] }
    | "RANDOM" => state.withExtras fun extras => { extras with seed := value.toNat?.getD 0 }
    | "SECONDS" => state.withExtras fun extras =>
      { extras with secondsFrom := (state.clock, value.toNat?.getD 0) }
    | _ => state
  if whole then told.assign place.name text else told.storeItem place.name key text

mutual

def sequence : Nat → Bool → Work Int
  | 0, _ => fail "expression recursion level exceeded"
  | bound + 1, idle => do
    let value ← assignment bound idle
    if ← isAt "," then do
      advance
      sequence bound idle
    else pure value

def assignment : Nat → Bool → Work Int
  | 0, _ => fail "expression recursion level exceeded"
  | bound + 1, idle => do
    let (value, place) ← choice bound idle
    match ← token with
    | .operator operator =>
      let change := operator.dropEnd 1 |>.toString
      if operator = "=" || ["*=", "/=", "%=", "+=", "-=", "&=", "^=", "|=", "<<=", ">>="].contains
          operator then
        match place with
        | none => fail "attempted assignment to non-variable"
        | some place => do
          advance
          let right ← assignment bound idle
          if idle then pure right
          else
            let result ← if operator = "=" then pure right
              else match applied? change value right with
                | some result => pure result
                | none => fail "division by 0"
            store bound place result
            pure result
      else pure value
    | _ => pure value

def choice : Nat → Bool → Work (Int × Option Place)
  | 0, _ => fail "expression recursion level exceeded"
  | bound + 1, idle => do
    let (condition, place) ← either bound idle
    if ← isAt "?" then do
      let holds := condition ≠ 0
      advance
      let ends ← token
      if ends = .finished || ends = .operator ":" then fail "expression expected"
      let yes ← sequence bound (idle || !holds)
      if !(← isAt ":") then fail "`:' expected for conditional expression" else pure ()
      advance
      if (← token) = .finished then fail "expression expected" else pure ()
      let (no, _) ← choice bound (idle || holds)
      pure (if holds then yes else no, none)
    else pure (condition, place)

def either : Nat → Bool → Work (Int × Option Place)
  | 0, _ => fail "expression recursion level exceeded"
  | bound + 1, idle => do
    let (first, place) ← both bound idle
    if ← isAt "||" then do
      advance
      let (second, _) ← either bound (idle || first ≠ 0)
      pure (truth (first ≠ 0 || second ≠ 0), none)
    else pure (first, place)

def both : Nat → Bool → Work (Int × Option Place)
  | 0, _ => fail "expression recursion level exceeded"
  | bound + 1, idle => do
    let (first, place) ← operation bound levels idle
    if ← isAt "&&" then do
      advance
      let (second, _) ← both bound (idle || first = 0)
      pure (truth (first ≠ 0 && second ≠ 0), none)
    else pure (first, place)

def operation : Nat → List (List String) → Bool → Work (Int × Option Place)
  | 0, _, _ => fail "expression recursion level exceeded"
  | bound + 1, [], idle => raised bound idle
  | bound + 1, level :: tighter, idle => do
    let (first, place) ← operation bound tighter idle
    operations bound level tighter idle first place

def operations : Nat → List String → List (List String) → Bool → Int → Option Place →
    Work (Int × Option Place)
  | 0, _, _, _, value, place => pure (value, place)
  | bound + 1, level, tighter, idle, value, place => do
    match ← token with
    | .operator text =>
      if level.contains text then do
        let divisor := (← get).rest.dropWhile Char.isWhitespace
        advance
        let (right, _) ← operation bound tighter idle
        let result ← if idle then pure 0
          else match applied? text value right with
            | some result => pure result
            | none => failAt "division by 0" divisor
        operations bound level tighter idle result none
      else pure (value, place)
    | _ => pure (value, place)

def raised : Nat → Bool → Work (Int × Option Place)
  | 0, _ => fail "expression recursion level exceeded"
  | bound + 1, idle => do
    let (base, place) ← signed bound idle
    if ← isAt "**" then do
      advance
      let (exponent, _) ← raised bound idle
      if idle then pure (0, none)
      else if exponent < 0 then fail "exponent less than 0"
      else pure (powerOf base exponent.toNat, none)
    else pure (base, place)

def signed : Nat → Bool → Work (Int × Option Place)
  | 0, _ => fail "expression recursion level exceeded"
  | bound + 1, idle => do
    match ← token with
    | .operator "!" => do
      advance
      let (value, _) ← signed bound idle
      pure (truth (value = 0), none)
    | .operator "~" => do
      advance
      let (value, _) ← signed bound idle
      pure (-value - 1, none)
    | .operator "-" => do
      advance
      let (value, _) ← signed bound idle
      pure (wrapped (-value), none)
    | .operator "+" => do
      advance
      let (value, _) ← signed bound idle
      pure (value, none)
    | _ => operand bound idle

def operand : Nat → Bool → Work (Int × Option Place)
  | 0, _ => fail "expression recursion level exceeded"
  | bound + 1, idle => do
    match ← token with
    | .number value => do
      advance
      pure (value, none)
    | .operator "(" => do
      advance
      let value ← sequence bound idle
      if !(← isAt ")") then fail "missing `)'"
      advance
      pure (value, none)
    | .operator "++" => counted bound idle 1
    | .operator "--" => counted bound idle (-1)
    | .place place => do
      advance
      let assigned ← isAt "="
      let value ← if idle || assigned then pure 0 else fetch bound place
      let step? : Option Int ← do
        if ← isAt "++" then pure (some 1)
        else if ← isAt "--" then pure (some (-1)) else pure none
      match step? with
      | some step => do
        if !idle then store bound place (wrapped (value + step))
        advance
        pure (value, none)
      | none => pure (value, some place)
    | _ => fail "syntax error: operand expected"

def counted : Nat → Bool → Int → Work (Int × Option Place)
  | 0, _, _ => fail "expression recursion level exceeded"
  | bound + 1, idle, step => do
    advance
    match ← token with
    | .place place => do
      let value ← if idle then pure 0 else fetch bound place
      let result := wrapped (value + step)
      if !idle then store bound place result
      advance
      pure (result, none)
    | _ => fail "identifier expected after pre-increment or pre-decrement"

def keyOf : Nat → Place → Work ItemKey
  | 0, _ => fail "expression recursion level exceeded"
  | bound + 1, place => do
    let progress ← get
    match plainKey? progress.state place with
    | some key => pure key
    | none =>
      let (value, state) ← evaluated bound progress.state (place.subscript.getD "")
      set { progress with state }
      match indexAt state place.name value with
      | some number => pure (.index number)
      | none => throw (.subscript place.name)

def fetch : Nat → Place → Work Int
  | 0, place => failAt "expression recursion level exceeded" place.text.toList
  | bound + 1, named => do
    let target := placeOf ((← get).state.referred 10 named.name) named.subscript
    let key ← keyOf bound target
    let progress ← get
    let state := if target.name = "RANDOM" then
        progress.state.withExtras fun extras => extras.random.2 else progress.state
    match (progress.state.contentOf target.name).bind fun content => content.item? key with
    | some text =>
      if text.toList.all Char.isWhitespace then pure 0
      else do
        let (value, after) ← evaluated bound state text
        set { progress with state := after }
        pure value
    | none => if state.options.contains 'u' then throw (.unbound target.text) else pure 0

def store : Nat → Place → Int → Work Unit
  | 0, _, _ => fail "expression recursion level exceeded"
  | bound + 1, named, value => do
    let target := placeOf ((← get).state.referred 10 named.name) named.subscript
    let key ← keyOf bound target
    let progress ← get
    if progress.state.isFixed target.name then throw (.fixed target.name)
    else set { progress with state := stored progress.state target key (toString value) }

def evaluated : Nat → State → String → Except Fault (Int × State)
  | 0, _, text => .error (.expression text "expression recursion level exceeded" text)
  | bound + 1, state, text => do
    let begun : Calculating := ⟨text.toList, .finished, [], text.toList, state⟩
    if text.toList.all Char.isWhitespace then .ok (0, state)
    else
      let work : Work Int := do
        advance
        let value ← sequence bound false
        if (← token) ≠ .finished then fail "syntax error in expression"
        pure value
      let (value, progress) ← work.run begun
      .ok (value, progress.state)

end

def deepest : Nat := 30000

end Calculation

def calculate (state : State) (text : String) : Except Shell.Calculation.Fault (Int × State) :=
  Calculation.evaluated Calculation.deepest state text

end ChartManifests.Program
