import ChartManifests.Number.Double
/-!
Programs of rules: what is done with the records of a text, and with the fields of each. A rule has
a pattern that tells for which records it holds, and statements to run for those.
-/

namespace ChartManifests.Rules

inductive Operation
  | add
  | subtract
  | multiply
  | divide
  | remainder
  | power
deriving DecidableEq, Repr

inductive Comparison
  | less
  | atMost
  | equal
  | different
  | atLeast
  | more
deriving DecidableEq, Repr

inductive Direction
  | replacing
  | appending
  | piping
deriving DecidableEq, Repr

/-- An expression. A `pattern` by itself asks whether it fits the record; a `grouping` of several
values is the key of an item, or what is printed. -/
inductive Expr
  | number (value : Double)
  | text (value : String)
  | pattern (source : String)
  | name (name : String)
  | field (index : Expr)
  | item (table : String) (keys : List Expr)
  | grouping (items : List Expr)
  | assign (operation : Option Operation) (target value : Expr)
  | step (before increases : Bool) (target : Expr)
  | calculate (operation : Operation) (left right : Expr)
  | sign (negative : Bool) (inner : Expr)
  | negation (inner : Expr)
  | compare (comparison : Comparison) (left right : Expr)
  | fits (negated : Bool) (left right : Expr)
  | both (left right : Expr)
  | either (left right : Expr)
  | choose (condition first second : Expr)
  | within (keys : List Expr) (table : String)
  | joined (left right : Expr)
  | call (function : String) (arguments : List Expr)
  | builtin (function : String) (arguments : List Expr)
  | getLine (fromCommand : Bool) (source target : Option Expr)
deriving Repr

inductive Statement
  | nothing
  | block (body : List Statement)
  | evaluate (value : Expr)
  | print (formatted : Bool) (items : List Expr) (target : Option (Direction × Expr))
  | branch (condition : Expr) (first : Statement) (second : Option Statement)
  | loop (condition : Option Expr) (body : Statement) (step : Option Expr)
  | loopAfter (body : Statement) (condition : Expr)
  | each (name table : String) (body : Statement)
  | delete (table : String) (keys : Option (List Expr))
  | next
  | nextFile
  | exit (status : Option Expr)
  | give (value : Option Expr)
  | leave
  | again
deriving Repr

/-- When a rule holds: before all records, behind all of them, for every record, where an expression
holds, or from one record to another. -/
inductive Pattern
  | beginning
  | ending
  | always
  | when (condition : Expr)
  | range (first last : Expr)
deriving Repr

structure Rule where
  pattern : Pattern
  body : Option (List Statement)
deriving Repr

structure Function where
  name : String
  parameters : List String
  body : List Statement
deriving Repr

structure Rulebook where
  rules : List Rule
  functions : List Function
deriving Repr

def Expr.isPlace : Expr → Bool
  | name _ | field _ | item _ _ => true
  | _ => false

end ChartManifests.Rules
