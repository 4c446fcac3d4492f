/-!
Scripts of the shells: words made of pieces, redirections, and statements. The plain shell knows a
part of them only; the rich shell has lists and tables of texts, conditions and calculations of its
own.
-/

namespace ChartManifests.Shell

inductive Variety
  | plain
  | rich
deriving DecidableEq, Repr

inductive Scope
  | first
  | every
  | beginning
  | ending
deriving DecidableEq, Repr

inductive Recasing
  | upper
  | lower
  | toggled
deriving DecidableEq, Repr

/-- What is done with the value of a parameter. Where `empty` is set, an empty value counts as no
value. What is `improper` is only found to be so when the value is asked for. `names` are those of
all parameters that begin in a way, and `keys` are those of the items of one. -/
inductive Treatment
  | plain
  | improper
  | length
  | fallback (empty : Bool)
  | assignment (empty : Bool)
  | alternative (empty : Bool)
  | demand (empty : Bool)
  | trimStart (longest : Bool)
  | trimEnd (longest : Bool)
  | slice (bounded : Bool)
  | replacement (scope : Scope)
  | recased (letters : Recasing) (every : Bool)
  | names
  | keys
  | described (aspect : Char)
deriving DecidableEq, Repr

/-- How a redirection opens its target. Where files are guarded, one that is there is overwritten
only by `replacing`. A `line` is a text that comes in by itself. -/
inductive Opening
  | reading
  | writing
  | replacing
  | creating
  | appending
  | both
  | duplicate
  | document
  | line
deriving DecidableEq, Repr

inductive Handle
  | number (descriptor : Nat)
  | named (parameter : String)
deriving DecidableEq, Repr

inductive ArmEnd
  | stops
  | falls
  | searches
deriving DecidableEq, Repr

mutual

inductive Selection
  | whole
  | one (subscript : List Piece)
  | apart
  | together

inductive Reference
  | mk (name : String) (indirect : Bool) (selection : Selection)

/-- A part of a word: text, the value of a parameter, the output of statements, the value of an
arithmetic expression, the items of a list, or a path that leads to statements. -/
inductive Piece
  | text (characters : List Char) (quoted : Bool)
  | parameter (target : Reference) (treatment : Treatment) (word second : List Piece)
    (quoted : Bool)
  | output (body : List Statement) (quoted : Bool)
  | number (expression : List Piece) (quoted : Bool)
  | items (elements : List Element)
  | channel (reads : Bool) (body : List Statement)

inductive Element
  | mk (subscript : Option (List Piece)) (appends : Bool) (value : List Piece)

inductive Assignment
  | mk (name : String) (subscript : Option (List Piece)) (appends : Bool) (value : List Piece)

inductive Redirection
  | mk (handle : Handle) (opening : Opening) (target : List Piece)

inductive Arm
  | mk (patterns : List (List Piece)) (body : List Statement) (ending : ArmEnd)

inductive Test
  | word (word : List Piece)
  | unary (operator : String) (operand : List Piece)
  | binary (operator : String) (left right : List Piece)
  | negated (inner : Test)
  | both (first second : Test)
  | either (first second : Test)

inductive Statement
  | simple (line : Nat) (assignments : List Assignment) (words : List (List Piece))
    (redirections : List Redirection)
  | pipeline (negated : Bool) (stages : List Statement)
  | andThen (first second : Statement)
  | orElse (first second : Statement)
  | background (body : Statement)
  | group (body : List Statement)
  | subshell (body : List Statement)
  | branch (condition body : List Statement) (otherwise : List Statement)
  | loop (awaited : Bool) (condition body : List Statement)
  | each (line : Nat) (name : String) (words : Option (List (List Piece)))
    (body : List Statement)
  | menu (line : Nat) (name : String) (words : Option (List (List Piece)))
    (body : List Statement)
  | counted (line : Nat) (start check step : List Piece) (body : List Statement)
  | choice (line : Nat) (word : List Piece) (arms : List Arm)
  | define (name : String) (body : Statement)
  | test (line : Nat) (test : Test)
  | calculation (line : Nat) (expression : List Piece)
  | timed (portable : Bool) (body : Statement)
  | redirected (body : Statement) (line : Nat) (redirections : List Redirection)

end

abbrev Word := List Piece

def Reference.plain (name : String) : Reference := .mk name false .whole

def consPiece : Piece → List Piece → List Piece
  | .text characters quoted, .text more same :: rest =>
    if quoted == same then .text (characters ++ more) quoted :: rest
    else .text characters quoted :: .text more same :: rest
  | piece, rest => piece :: rest

end ChartManifests.Shell
