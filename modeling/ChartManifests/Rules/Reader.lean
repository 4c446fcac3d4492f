import ChartManifests.Rules.Spelling
/-!
Reading programs of rules. Operators bind on levels, from choices down to powers; two values next to
each other are joined, on a level between comparisons and sums.

The reader recurses on a bound that exceeds the depth of anything a text of that length can hold.
-/

namespace ChartManifests.Rules

/-- What surrounds the place that is read: whether `>` compares there, whether a place can be
assigned to, how many parentheses and braces are open, and what the statements there belong to. -/
structure Setting where
  compares : Bool
  assigns : Bool
  parentheses : Nat
  braces : Nat
  inLoop : Bool
  inFunction : Bool
  inRule : Bool
deriving DecidableEq, Repr

def unexpected {α : Type} (setting : Setting) (cursor : Cursor) : Except Fault α := do
  let (token, _) ← cursor.next
  let line := cursor.skipBlanks.line
  let ends := token = .newline || token = .sign ";" || token = .sign "\x7d"
  if token = .ending && 0 < setting.braces then
    .error (.reading line "missing \x7d near end of file")
  else if token = .sign ")" && setting.parentheses = 0 then .error (.reading line "extra ')'")
  else if token = .sign "\x7d" && setting.braces = 0 then .error (.reading line "extra '\x7d'")
  else if ends && 0 < setting.parentheses then
    .error (.reading line ("missing ) near " ++ token.shown))
  else .error (.reading line ("syntax error at or near " ++ token.shown))

def expect (setting : Setting) (sign : String) (cursor : Cursor) : Except Fault Cursor := do
  let (token, after) ← cursor.next
  if token = .sign sign then .ok after else unexpected setting cursor

def skipLines : Nat → Cursor → Except Fault Cursor
  | 0, cursor => .ok cursor
  | bound + 1, cursor => do
    match cursor.skipBlanks.rest with
    | '\n' :: _ =>
      let (_, after) ← cursor.next
      skipLines bound after
    | _ => .ok cursor

def Cursor.skipLines (cursor : Cursor) : Except Fault Cursor :=
  Rules.skipLines (cursor.rest.length + 1) cursor

def operatorOf (setting : Setting) (level : Nat) (token : Token) : Option (Expr → Expr → Expr) :=
  match level, token with
  | 0, .sign "||" => some .either
  | 1, .sign "&&" => some .both
  | 3, .sign "~" => some (.fits false)
  | 3, .sign "!~" => some (.fits true)
  | 4, .sign "==" => some (.compare .equal)
  | 4, .sign "!=" => some (.compare .different)
  | 4, .sign "<" => some (.compare .less)
  | 4, .sign "<=" => some (.compare .atMost)
  | 4, .sign ">=" => some (.compare .atLeast)
  | 4, .sign ">" => if setting.compares then some (.compare .more) else none
  | 6, .sign "+" => some (.calculate .add)
  | 6, .sign "-" => some (.calculate .subtract)
  | 7, .sign "*" => some (.calculate .multiply)
  | 7, .sign "/" => some (.calculate .divide)
  | 7, .sign "%" => some (.calculate .remainder)
  | _, _ => none

def assignmentOf (token : Token) : Option (Option Operation) :=
  match token with
  | .sign "=" => some none
  | .sign "+=" => some (some .add)
  | .sign "-=" => some (some .subtract)
  | .sign "*=" => some (some .multiply)
  | .sign "/=" => some (some .divide)
  | .sign "%=" => some (some .remainder)
  | .sign "^=" => some (some .power)
  | _ => none

def beginsOperand : Token → Bool
  | .number _ _ | .text _ _ | .called _ => true
  | .word name => !keywords.contains name
  | .sign sign => ["$", "!", "(", "++", "--"].contains sign
  | _ => false

def argumentsOf (function : String) : Nat × Nat :=
  match function with
  | "length" | "srand" | "fflush" => (0, 1)
  | "index" | "match" | "atan2" => (2, 2)
  | "substr" | "split" | "sub" | "gsub" => (2, 3)
  | "sprintf" => (1, 1000)
  | "rand" | "systime" => (0, 0)
  | "strftime" => (0, 3)
  | _ => (1, 1)

def Expr.items : Expr → List Expr
  | grouping items => items
  | other => [other]

def checkPattern (source : String) (line : Nat) : Except Fault Unit :=
  match expressionOf source with
  | .ok _ => .ok ()
  | .error reason =>
    .error (.reading line ("regular expression compile failed (" ++ reason.message ++ ")\n"
      ++ source))

def readPattern (cursor : Cursor) : Except Fault (Expr × Cursor) := do
  let (source, last) ← cursor.pattern
  checkPattern source last.line
  .ok (.pattern source, last)

def checkPatterns (expr : Expr) (line : Nat) : Except Fault Unit :=
  match expr with
  | .fits _ _ (.text source) => checkPattern source line
  | .builtin "split" [_, _, .text source] =>
    if 1 < source.length then checkPattern source line else .ok ()
  | .builtin "match" [_, .text source] => checkPattern source line
  | .builtin "sub" (.text source :: _) | .builtin "gsub" (.text source :: _) =>
    checkPattern source line
  | _ => .ok ()

mutual

def readValue : Nat → Setting → Cursor → Except Fault (Expr × Cursor)
  | 0, setting, cursor => unexpected setting cursor
  | bound + 1, setting, cursor => do
    let (condition, after) ← readLevel bound setting 0 cursor
    let (token, behind) ← after.next
    if token = .sign "?" then do
      let (first, next) ← readValue bound setting (← behind.skipLines)
      let colon ← expect setting ":" (← next.skipLines)
      let (second, last) ← readValue bound setting (← colon.skipLines)
      .ok (.choose condition first second, last)
    else .ok (condition, after)

def readLevel : Nat → Setting → Nat → Cursor → Except Fault (Expr × Cursor)
  | 0, setting, _, cursor => unexpected setting cursor
  | bound + 1, setting, level, cursor => do
    if level = 8 then readUnary bound setting cursor
    else
      let (left, after) ← readLevel bound setting (level + 1) cursor
      readRest bound setting level left after

def readRest : Nat → Setting → Nat → Expr → Cursor → Except Fault (Expr × Cursor)
  | 0, _, _, left, cursor => .ok (left, cursor)
  | bound + 1, setting, level, left, cursor => do
    let (token, after) ← cursor.next
    match operatorOf setting level token with
    | some join =>
      if 1 < left.items.length then unexpected setting cursor
      else
        let begun ← if level ≤ 1 then after.skipLines else pure after
        let inner := { setting with assigns := setting.assigns && level ≤ 4 }
        let (right, last) ← readLevel bound inner (level + 1) begun
        checkPatterns (join left right) last.line
        readRest bound setting level (join left right) last
    | none =>
      if level = 2 && token = .word "in" then
        match ← after.next with
        | (.word table, last) => readRest bound setting level (.within left.items table) last
        | _ => unexpected setting after
      else if level = 5 && beginsOperand token && 1 < left.items.length then
        unexpected setting cursor
      else if level = 5 && beginsOperand token then
        let (right, last) ← readLevel bound { setting with assigns := false } 6 cursor
        readRest bound setting level (.joined left right) last
      else .ok (left, cursor)

def readUnary : Nat → Setting → Cursor → Except Fault (Expr × Cursor)
  | 0, setting, cursor => unexpected setting cursor
  | bound + 1, setting, cursor => do
    let (token, after) ← cursor.next
    let plain := { setting with assigns := false }
    match token with
    | .sign "!" =>
      let (inner, last) ← readUnary bound plain after
      .ok (.negation inner, last)
    | .sign "-" =>
      let (inner, last) ← readUnary bound plain after
      .ok (.sign true inner, last)
    | .sign "+" =>
      let (inner, last) ← readUnary bound plain after
      .ok (.sign false inner, last)
    | _ =>
      let (first, last) ← readPower bound setting cursor
      readPipes bound setting first last

def readPipes : Nat → Setting → Expr → Cursor → Except Fault (Expr × Cursor)
  | 0, _, command, cursor => .ok (command, cursor)
  | bound + 1, setting, command, cursor => do
    match ← cursor.next with
    | (.sign "|", after) =>
      match ← after.next with
      | (.word "getline", behind) =>
        let (target, last) ← readTarget bound setting behind
        readPipes bound setting (.getLine true (some command) target) last
      | _ => if setting.compares then unexpected setting after else .ok (command, cursor)
    | _ => .ok (command, cursor)

def readTarget : Nat → Setting → Cursor → Except Fault (Option Expr × Cursor)
  | 0, _, cursor => .ok (none, cursor)
  | bound + 1, setting, cursor => do
    let (token, _) ← cursor.next
    let begins := match token with
      | .word name => !keywords.contains name && !builtinNames.contains name
      | .sign sign => sign = "$"
      | _ => false
    if begins then
      let (target, last) ← readPrimary bound setting cursor
      .ok (some target, last)
    else .ok (none, cursor)

def readPower : Nat → Setting → Cursor → Except Fault (Expr × Cursor)
  | 0, setting, cursor => unexpected setting cursor
  | bound + 1, setting, cursor => do
    let (base, after) ← readChanged bound setting cursor
    match ← after.next with
    | (.sign "^", behind) =>
      let (token, _) ← behind.next
      let signed := token = .sign "-" || token = .sign "+" || token = .sign "!"
      let plain := { setting with assigns := false }
      let (power, last) ← if signed then readUnary bound plain behind
        else readPower bound plain behind
      .ok (.calculate .power base power, last)
    | _ => .ok (base, after)

def readChanged : Nat → Setting → Cursor → Except Fault (Expr × Cursor)
  | 0, setting, cursor => unexpected setting cursor
  | bound + 1, setting, cursor => do
    let (value, after) ← readPrimary bound setting cursor
    if !value.isPlace then .ok (value, after)
    else
      let (token, behind) ← after.next
      match assignmentOf token with
      | some operation =>
        if setting.assigns then
          let (right, last) ← readValue bound setting behind
          .ok (.assign operation value right, last)
        else .ok (value, after)
      | none =>
        if token = .sign "++" || token = .sign "--" then
          .ok (.step false (token = .sign "++") value, behind)
        else .ok (value, after)

def readPrimary : Nat → Setting → Cursor → Except Fault (Expr × Cursor)
  | 0, setting, cursor => unexpected setting cursor
  | bound + 1, setting, cursor => do
    let (token, after) ← cursor.next
    let inner := { setting with
      compares := true, assigns := true, parentheses := setting.parentheses + 1 }
    match token with
    | .number value _ => .ok (.number value, after)
    | .text value _ => .ok (.text value, after)
    | .sign "/" => readPattern after
    | .sign "/=" => readPattern { after with rest := '=' :: after.rest }
    | .sign "(" =>
      let (values, next) ← readValues bound inner after
      let last ← expect inner ")" next
      match values with
      | [value] => .ok (if value.isPlace then .grouping [value] else value, last)
      | _ => .ok (.grouping values, last)
    | .sign "$" =>
      let (index, last) ← match ← after.next with
        | (.sign "-", _) | (.sign "+", _) | (.sign "!", _) => readUnary bound setting after
        | (.sign "++", behind) | (.sign "--", behind) =>
          let (target, last) ← readPrimary bound setting behind
          let increases := (← after.next).1 = .sign "++"
          pure (Expr.step true increases target, last)
        | _ => readPrimary bound setting after
      .ok (.field index, last)
    | .sign "++" | .sign "--" =>
      let (target, last) ← readPrimary bound setting after
      if target.isPlace then .ok (.step true (token = .sign "++") target, last)
      else unexpected setting after
    | .sign "-" | .sign "+" | .sign "!" => readUnary bound setting cursor
    | .called name =>
      let opened ← expect setting "(" after
      let (arguments, last) ← readArguments bound inner opened
      .ok (.call name arguments, { last with calls := name :: last.calls })
    | .word "getline" =>
      let (target, next) ← readTarget bound setting after
      match ← next.next with
      | (.sign "<", behind) =>
        let (source, last) ← readPower bound { setting with assigns := false } behind
        .ok (.getLine false (some source) target, last)
      | _ => .ok (.getLine false none target, next)
    | .word name =>
      if keywords.contains name then unexpected setting cursor
      else if builtinNames.contains name then
        match ← after.next with
        | (.sign "(", opened) =>
          let (arguments, last) ← readArguments bound inner opened
          let (least, most) := argumentsOf name
          let isFixed := ["split", "sub", "gsub", "match", "length"].contains name
          if isFixed && arguments.length < least then
            .error (.reading last.line "syntax error at or near )")
          else if isFixed && most < arguments.length then
            .error (.reading last.line "syntax error at or near ,")
          else if arguments.length < least || most < arguments.length then
            .error (.reading last.line ("wrong number of arguments in call to " ++ name))
          else
            checkPatterns (.builtin name arguments) last.line
            .ok (.builtin name arguments, last)
        | _ => if name = "length" then .ok (.builtin name [], after) else unexpected setting after
      else
        match ← after.next with
        | (.sign "[", opened) =>
          let keyed := { setting with compares := true, assigns := true }
          let (keys, next) ← readValues bound keyed opened
          let last ← expect keyed "]" next
          .ok (.item name keys, last)
        | _ => .ok (.name name, after)
    | _ => unexpected setting cursor

def readValues : Nat → Setting → Cursor → Except Fault (List Expr × Cursor)
  | 0, setting, cursor => unexpected setting cursor
  | bound + 1, setting, cursor => do
    let (value, after) ← readValue bound setting cursor
    match ← after.next with
    | (.sign ",", behind) =>
      let (others, last) ← readValues bound setting (← behind.skipLines)
      .ok (value :: others, last)
    | _ => .ok ([value], after)

def readArguments : Nat → Setting → Cursor → Except Fault (List Expr × Cursor)
  | 0, setting, cursor => unexpected setting cursor
  | bound + 1, setting, cursor => do
    match ← cursor.next with
    | (.sign ")", last) => .ok ([], last)
    | _ =>
      let (values, after) ← readValues bound setting cursor
      .ok (values, ← expect setting ")" after)

end

def endStatement (setting : Setting) (cursor : Cursor) : Except Fault Cursor := do
  match ← cursor.next with
  | (.sign ";", after) | (.newline, after) => .ok after
  | (.sign "\x7d", _) => if 0 < setting.braces then .ok cursor else unexpected setting cursor
  | _ => unexpected setting cursor

def eachOf (cursor : Cursor) : Except Fault (Option (String × String × Cursor)) := do
  match ← cursor.next with
  | (.word name, after) =>
    match ← after.next with
    | (.word "in", behind) =>
      match ← behind.next with
      | (.word table, last) =>
        match ← last.next with
        | (.sign ")", closed) => .ok (some (name, table, closed))
        | _ => .ok none
      | _ => .ok none
    | _ => .ok none
  | _ => .ok none

def readUntilSign (bound : Nat) (setting : Setting) (sign : String) (cursor : Cursor) :
    Except Fault (Option Expr × Cursor) := do
  let (token, after) ← cursor.next
  if token = .sign sign then .ok (none, after)
  else
    let (value, next) ← readValue bound setting cursor
    .ok (some value, ← expect setting sign next)

def readPrint (bound : Nat) (setting : Setting) (formatted : Bool) (cursor : Cursor) :
    Except Fault (Statement × Cursor) := do
  let plain := { setting with compares := false }
  let (token, _) ← cursor.next
  let stops : List Token :=
    [.newline, .sign ";", .sign "\x7d", .sign ">", .sign ">>", .sign "|"]
  let isEmpty := stops.contains token
  let (values, after) ← if isEmpty then pure ([], cursor) else readValues bound plain cursor
  let items := match values with
    | [.grouping items] => items
    | _ => values
  if formatted && items.isEmpty then
    .error (.reading after.line "no arguments in call to printf")
  let (sign, behind) ← after.next
  let direction? : Option Direction := match sign with
    | .sign ">" => some .replacing
    | .sign ">>" => some .appending
    | .sign "|" => some .piping
    | _ => none
  match direction? with
  | none => .ok (.print formatted items none, ← endStatement setting after)
  | some direction =>
    let (target, last) ← readValue bound plain behind
    .ok (.print formatted items (some (direction, target)), ← endStatement setting last)

mutual

def readStatement : Nat → Setting → Cursor → Except Fault (Statement × Cursor)
  | 0, setting, cursor => unexpected setting cursor
  | bound + 1, setting, cursor => do
    let (token, after) ← cursor.next
    let inner := { setting with parentheses := setting.parentheses + 1 }
    let looping := { setting with inLoop := true }
    let simple (statement : Statement) (next : Cursor) : Except Fault (Statement × Cursor) := do
      .ok (statement, ← endStatement setting next)
    let optional (make : Option Expr → Statement) : Except Fault (Statement × Cursor) := do
      let (next, _) ← after.next
      if next = .newline || next = .sign ";" || next = .sign "\x7d" then simple (make none) after
      else
        let (value, last) ← readValue bound setting after
        simple (make (some value)) last
    let condition : Except Fault (Expr × Cursor) := do
      let (value, next) ← readValue bound inner (← expect setting "(" after)
      .ok (value, ← expect inner ")" next)
    match token with
    | .sign "\x7b" =>
      let (body, last) ← readStatements bound { setting with braces := setting.braces + 1 } after
      .ok (.block body, last)
    | .sign ";" => .ok (.nothing, after)
    | .word "if" =>
      let (value, next) ← condition
      let (first, behind) ← readStatement bound setting (← next.skipLines)
      let (other, last) ← (← behind.skipLines).next
      if other = .word "else" then
        let (second, last) ← readStatement bound setting (← last.skipLines)
        .ok (.branch value first (some second), last)
      else .ok (.branch value first none, behind)
    | .word "while" =>
      let (value, next) ← condition
      let (body, last) ← readStatement bound looping (← next.skipLines)
      .ok (.loop (some value) body none, last)
    | .word "do" =>
      let (body, next) ← readStatement bound looping (← after.skipLines)
      match ← (← next.skipLines).next with
      | (.word "while", behind) =>
        let (value, last) ← readValue bound inner (← expect setting "(" behind)
        simple (.loopAfter body value) (← expect inner ")" last)
      | _ => unexpected setting next
    | .word "for" =>
      let opened ← expect setting "(" after
      match ← eachOf opened with
      | some (name, table, closed) =>
        let (body, last) ← readStatement bound looping (← closed.skipLines)
        .ok (.each name table body, last)
      | none =>
        let (first, next) ← readUntilSign bound inner ";" opened
        let (value, behind) ← readUntilSign bound inner ";" next
        let (step, closed) ← readUntilSign bound inner ")" behind
        let (body, last) ← readStatement bound looping (← closed.skipLines)
        let loop := Statement.loop value body step
        .ok (match first with
          | some first => .block [.evaluate first, loop]
          | none => loop, last)
    | .word "break" | .word "continue" =>
      let name := token.shown
      if !setting.inLoop then
        .error (.reading cursor.skipBlanks.line (name ++ " statement outside of loop"))
      else simple (if name = "break" then .leave else .again) after
    | .word "next" | .word "nextfile" =>
      if setting.inRule then simple (if token = .word "next" then .next else .nextFile) after
      else .error (.reading cursor.skipBlanks.line ("improper use of " ++ token.shown))
    | .word "exit" => optional .exit
    | .word "return" =>
      if setting.inFunction then optional .give
      else .error (.reading cursor.skipBlanks.line "return outside function body")
    | .word "print" => readPrint bound setting false after
    | .word "printf" => readPrint bound setting true after
    | .word "delete" =>
      match ← after.next with
      | (.word table, next) =>
        match ← next.next with
        | (.sign "[", opened) =>
          let (keys, last) ← readValues bound setting opened
          simple (.delete table (some keys)) (← expect setting "]" last)
        | _ => simple (.delete table none) next
      | _ => unexpected setting after
    | _ =>
      let (value, last) ← readValue bound setting cursor
      if 1 < value.items.length then unexpected setting last
      else simple (.evaluate value) last

def readStatements : Nat → Setting → Cursor → Except Fault (List Statement × Cursor)
  | 0, setting, cursor => unexpected setting cursor
  | bound + 1, setting, cursor => do
    let here ← cursor.skipLines
    match ← here.next with
    | (.sign "\x7d", last) => .ok ([], last)
    | _ =>
      let (statement, after) ← readStatement bound setting here
      let (others, last) ← readStatements bound setting after
      .ok (statement :: others, last)

end

def Setting.outside : Setting := ⟨true, true, 0, 0, false, false, false⟩

def readParameters : Nat → Cursor → Except Fault (List String × Cursor)
  | 0, cursor => unexpected .outside cursor
  | bound + 1, cursor => do
    match ← cursor.next with
    | (.sign ")", last) => .ok ([], last)
    | (.word name, after) =>
      match ← after.next with
      | (.sign ",", behind) =>
        let more ← behind.skipLines
        let (others, last) ← readParameters bound more
        if others.isEmpty then unexpected .outside more
        else if others.contains name then
          .error (.reading last.line (name ++ " is duplicated in argument list"))
        else .ok (name :: others, last)
      | (.sign ")", last) => .ok ([name], last)
      | _ => unexpected .outside after
    | _ => unexpected .outside cursor

def readBody (bound : Nat) (inFunction inRule : Bool) (cursor : Cursor) :
    Except Fault (List Statement × Cursor) := do
  let opened ← expect .outside "\x7b" cursor
  readStatements bound { Setting.outside with braces := 1, inFunction, inRule } opened

def readFunction (bound : Nat) (cursor : Cursor) : Except Fault (Function × Cursor) := do
  match ← cursor.next with
  | (.called name, after) | (.word name, after) =>
    if keywords.contains name || builtinNames.contains name then unexpected .outside cursor
    else
      let (parameters, closed) ← readParameters bound (← expect .outside "(" after)
      let (body, last) ← readBody bound true false (← closed.skipLines)
      .ok (⟨name, parameters, body⟩, last)
  | _ => unexpected .outside cursor

def readRule (bound : Nat) (cursor : Cursor) : Except Fault (Rule × Cursor) := do
  let (token, after) ← cursor.next
  match token with
  | .word "BEGIN" =>
    let (body, last) ← readBody bound false false after
    .ok (⟨.beginning, some body⟩, last)
  | .word "END" =>
    let (body, last) ← readBody bound false false after
    .ok (⟨.ending, some body⟩, last)
  | .sign "\x7b" =>
    let (body, last) ← readBody bound false true cursor
    .ok (⟨.always, some body⟩, last)
  | _ =>
    let (first, next) ← readValue bound .outside cursor
    let (sign, behind) ← next.next
    let (pattern, last) ← if sign = .sign "," then do
        let (second, last) ← readValue bound .outside (← behind.skipLines)
        pure (Pattern.range first second, last)
      else pure (Pattern.when first, next)
    match ← last.next with
    | (.sign "\x7b", _) =>
      let (body, last) ← readBody bound false true last
      .ok (⟨pattern, some body⟩, last)
    | _ => .ok (⟨pattern, none⟩, ← endStatement .outside last)

def readAll : Nat → Cursor → Except Fault (Rulebook × Cursor)
  | 0, cursor => unexpected .outside cursor
  | bound + 1, cursor => do
    let here ← cursor.skipLines
    let separated (next : Cursor) : Except Fault Cursor := do
      match ← next.next with
      | (.sign ";", after) => .ok after
      | _ => .ok next
    match ← here.next with
    | (.ending, last) => .ok (⟨[], []⟩, last)
    | (.word "function", after) =>
      let (function, next) ← readFunction bound after
      let (others, last) ← readAll bound (← separated next)
      if others.functions.any (·.name = function.name) then
        .error (.reading (last.line - 1) ("redefinition of " ++ function.name))
      else .ok ({ others with functions := function :: others.functions }, last)
    | _ =>
      let (rule, next) ← readRule bound here
      let (others, last) ← readAll bound (← separated next)
      .ok ({ others with rules := rule :: others.rules }, last)

def openBraces : Nat → Nat → Cursor → Nat × Nat
  | 0, depth, cursor => (depth, cursor.line)
  | bound + 1, depth, cursor =>
    match cursor.next with
    | .error _ => (0, cursor.line)
    | .ok (.ending, last) => (depth, last.line)
    | .ok (.sign "\x7b", after) => openBraces bound (depth + 1) after
    | .ok (.sign "\x7d", after) => openBraces bound (depth - 1) after
    | .ok (_, after) => openBraces bound depth after

def read (text : String) : Except (List Fault) Rulebook :=
  let characters := text.toList ++ ['\n']
  let begun : Cursor := ⟨characters, 1, []⟩
  match readAll (40 * characters.length + 100) begun with
  | .error reason =>
    let (depth, line) := openBraces (characters.length + 1) 0 begun
    let ending := Fault.reading line "missing \x7d near end of file"
    let isExtra := reason matches .reading _ "extra '\x7d'"
    .error (if 0 < depth ∧ reason ≠ ending then [reason, ending]
      else if isExtra then [reason, .reading (line - 1) "syntax error at or near end of line"]
      else [reason])
  | .ok (program, last) =>
    let known := program.functions.map Function.name
    match last.calls.reverse.find? fun name => !known.contains name with
    | some name => .error [.reading last.line ("function " ++ name ++ " never defined")]
    | none => .ok program

end ChartManifests.Rules
