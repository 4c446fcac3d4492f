import ChartManifests.Program.Ruled.Evaluation
import ChartManifests.Rules.Reader
/-!
The utility that runs programs of rules over the records of its operands.
-/

namespace ChartManifests.Program.Utility

open Rules (Datum Items Rule)
open Ruled (Work Store)

structure RuleOptions where
  given : Given
  arguments : List String
deriving DecidableEq, Repr

def readRuleOptions : List String → Run RuleOptions
  | [] => pure ⟨[], []⟩
  | word :: rest => do
    let isValued (letter : Char) : Bool := ['F', 'v', 'f', 'W'].contains letter
    let refuse : Run RuleOptions := fail 2 ("not an option: " ++ word)
    match word.toList with
    | ['-', '-'] => pure ⟨[], rest⟩
    | ['-'] => pure ⟨[], word :: rest⟩
    | ['-', letter] =>
      if !isValued letter then refuse
      else
        match rest with
        | [] => fail 2 ("option requires an argument -- " ++ letter.toString)
        | value :: later => do
          let others ← readRuleOptions later
          pure { others with given := (letter, value) :: others.given }
    | '-' :: letter :: inside =>
      if isValued letter then do
        let others ← readRuleOptions rest
        pure { others with given := (letter, String.ofList inside) :: others.given }
      else if word = "--version" then pure ⟨[('W', "version")], []⟩
      else refuse
    | _ => pure ⟨[], word :: rest⟩

def ruleNotice : String :=
  "mawk 1.3.4 20200120\n\n"
    ++ "random-funcs:       srandom/random\nregex-funcs:        internal\n"
    ++ "compiled limits:\nsprintf buffer      8192\nmaximum-integer     2147483647\n"

def prepareNames (given : Given) (operands : List String) : Work Unit := do
  let state ← (get : Run State)
  for (name, value) in [("FS", " "), ("OFS", " "), ("ORS", "\n"), ("RS", "\n"), ("OFMT", "%.6g"),
      ("CONVFMT", "%.6g"), ("SUBSEP", "\x1c")] do
    Ruled.setValue name (.text value)
  for name in ["NR", "FNR", "RSTART"] do
    Ruled.setValue name (.ofNat 0)
  Ruled.setValue "RLENGTH" (.ofInt (-1))
  let environment := state.environment.foldl (fun items (name, value) =>
    items.set (.text name) (.input value)) Items.empty
  Ruled.setItems (← Ruled.tableNumber "ENVIRON") environment
  let words := state.title :: operands
  let arguments := words.zipIdx.foldl (fun items (word, index) =>
    items.set (.number (index : Nat)) (.input word)) Items.empty
  Ruled.setItems (← Ruled.tableNumber "ARGV") arguments
  Ruled.setValue "ARGC" (.ofNat words.length)
  for (letter, value) in given do
    match letter, Ruled.assignment? value with
    | 'F', _ =>
      let characters := Rules.withoutEscapes (value.length + 1) value.toList
      Ruled.setName "FS" (.text (String.ofList characters))
    | 'v', some (name, text) => Ruled.setName name (.input text)
    | 'v', none => Ruled.stop ("improper assignment: -v " ++ value)
    | _, _ => pure ()

def ruleHolds (launcher : Launcher) (bound : Nat) (number : Nat) (rule : Rule) : Work Bool := do
  match rule.pattern with
  | .always => pure true
  | .beginning | .ending => pure false
  | .when condition => do pure (← Ruled.evaluate launcher bound condition).holds
  | .range first last => do
    let isOpen := (← get).ranges.contains number
    let begins ← if isOpen then pure true
      else do pure (← Ruled.evaluate launcher bound first).holds
    if !begins then pure false
    else do
      let ends := (← Ruled.evaluate launcher bound last).holds
      modify fun store => { store with
        ranges := if ends then store.ranges.filter (· ≠ number)
          else if isOpen then store.ranges else number :: store.ranges }
      pure true

def applyRules (launcher : Launcher) (bound : Nat) : List (Rule × Nat) → Work Unit
  | [] => pure ()
  | (rule, number) :: rest => do
    if ← ruleHolds launcher bound number rule then
      Ruled.perform launcher bound (match rule.body with
        | some body => .block body
        | none => .print false [] none)
    applyRules launcher bound rest

def goThroughRecords (launcher : Launcher) (bound : Nat) (rules : List (Rule × Nat)) :
    Nat → Work Unit
  | 0 => (Run.stall : Run _)
  | count + 1 => do
    Ruled.breathe
    match ← Ruled.nextRecord 100000 with
    | none => pure ()
    | some record => do
      Ruled.setRecord record
      tryCatch (applyRules launcher bound rules) fun jump => match jump with
        | .next => pure ()
        | .nextFile => do
          match (← get).main with
          | some source => do
            discard (Ruled.closeSource source : Run Nat)
            modify fun store => { store with main := none }
          | none => pure ()
        | other => throw other
      goThroughRecords launcher bound rules count

def runBodies (launcher : Launcher) (bound : Nat) (bodies : List (List Rules.Statement)) :
    Work Unit :=
  Ruled.perform launcher bound (.block (bodies.map .block))

def ruleBound : Nat := 10 ^ 12

def comesToEnd (action : Work Unit) : Work Bool :=
  tryCatch (do
      action
      pure true)
    fun _ => pure false

def runRules (launcher : Launcher) (program : Rules.Rulebook) : Work Unit := do
  let bodiesOf (isMeant : Rules.Pattern → Bool) : List (List Rules.Statement) :=
    (program.rules.filter fun rule => isMeant rule.pattern).filterMap Rule.body
  let beginning := bodiesOf fun pattern => pattern matches .beginning
  let ending := bodiesOf fun pattern => pattern matches .ending
  let others := program.rules.zipIdx.filter fun (rule, _) =>
    !(rule.pattern matches .beginning) && !(rule.pattern matches .ending)
  let goesOn ← comesToEnd (runBodies launcher ruleBound beginning)
  if goesOn && !(others.isEmpty && ending.isEmpty) then
    discard (comesToEnd (goThroughRecords launcher ruleBound others ruleBound))
  discard (comesToEnd (runBodies launcher ruleBound ending))
  Ruled.closeAll

def awk (launcher : Launcher) (arguments : List String) : Run Nat := do
  modify fun state => { state with title := baseName state.title "" }
  let options ← readRuleOptions arguments
  if options.given.any fun entry => entry.1 = 'W' && "version".startsWith entry.2 then do
    putText ruleNotice
    pure 0
  else
    let files := (options.given.filter (·.1 = 'f')).map Prod.snd
    let (text, operands) ← match files, options.arguments with
      | [], [] => do
        fail 2 "no program given"
      | [], program :: operands => pure (program, operands)
      | _, operands => do
        let contents ← files.mapM fun path => do
          match ← contentOf path with
          | .ok content => pure (Text.ofOctets content)
          | .error reason => fail 2 ("cannot open \"" ++ path ++ "\" (" ++ reason.wording ++ ")")
        pure ("\n".intercalate contents, operands)
    match Rules.read text with
    | .error faults => do
      for reason in faults do
        complain (reason.message (files.getLast?.elim "" (· ++ ": ")))
      pure 2
    | .ok program => do
      let begun : Work Unit := do
        prepareNames options.given operands
        runRules launcher program
      let (_, store) ← begun.run.run (Store.beginning program)
      pure store.status

end ChartManifests.Program.Utility
