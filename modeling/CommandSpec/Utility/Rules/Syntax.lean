import CommandSpec.Regex.Search

/-!
# Rules

A program is made of rules. A rule has a pattern, which tells the records that it is for, and an action,
which is a sequence of statements. Expressions and statements are trees; a name in them is that of a
variable of the program or of a parameter of the function around it.
-/

namespace CommandSpec.Utility.Rules

open CommandSpec.Regex (Pattern)

/-- What a name in a program stands for. -/
inductive Variable where
  | common (name : String)
  /-- A parameter of a function, by its place. -/
  | parameter (place : Nat)
  deriving DecidableEq, Repr, Inhabited

/-- An operation on two numbers. -/
inductive Arithmetic where
  | add
  | subtract
  | multiply
  | divide
  | remainder
  | power
  deriving DecidableEq, Repr, Inhabited

/-- A relation between two values. -/
inductive Relation where
  | less
  | atMost
  | equal
  | unequal
  | atLeast
  | greater
  deriving DecidableEq, Repr, Inhabited

/-- A function that every program has. -/
inductive Function where
  | length
  | index
  | substring
  | split
  | substitute (all : Bool)
  | find
  | format
  | sine
  | cosine
  | arctangent
  | exponential
  | logarithm
  | root
  | truncate
  | random
  | seed
  | lower
  | upper
  | system
  | close
  | flush
  | time
  | timeText
  | timeOf
  deriving DecidableEq, Repr, Inhabited

/-- Where records are taken from. -/
inductive Supply where
  | main
  | file
  | command
  deriving DecidableEq, Repr, Inhabited

/-- Where output goes. -/
inductive Drain where
  | file
  | appended
  | command
  deriving DecidableEq, Repr, Inhabited

mutual

/-- Something that has a value and can be given one. -/
inductive Place where
  | plain (v : Variable)
  | field (index : Expression)
  | element (table : Variable) (keys : List Expression)

/-- An expression. -/
inductive Expression where
  | number (x : Float)
  | text (s : String)
  /-- Whether the record matches a pattern. -/
  | regex (p : Pattern)
  | place (p : Place)
  | assign (p : Place) (op : Option Arithmetic) (e : Expression)
  /-- Add a number to a place; the value is that before or after. -/
  | step (p : Place) (amount : Float) (isBefore : Bool)
  | choice (condition yes no : Expression)
  | both (a b : Expression)
  | either (a b : Expression)
  | negation (e : Expression)
  | isKey (keys : List Expression) (table : Variable)
  | matching (e r : Expression) (isNegated : Bool)
  | relation (r : Relation) (a b : Expression)
  | concat (a b : Expression)
  | arithmetic (op : Arithmetic) (a b : Expression)
  /-- A number with its sign changed or not. -/
  | signed (isNegative : Bool) (e : Expression)
  | getline (supply : Supply) (name : Option Expression) (target : Option Place)
  | call (name : String) (args : List Expression)
  | apply (f : Function) (args : List Expression)

end

instance : Inhabited Expression := ⟨.number 0⟩
instance : Inhabited Place := ⟨.plain default⟩

/-- A statement. -/
inductive Statement where
  | nothing
  | expression (e : Expression)
  | print (args : List Expression) (target : Option (Drain × Expression))
  | printFormat (args : List Expression) (target : Option (Drain × Expression))
  | choice (condition : Expression) (yes no : Statement)
  | whileLoop (condition : Expression) (body : Statement)
  /-- Run the body before the condition is looked at. -/
  | doLoop (body : Statement) (condition : Expression)
  /-- A loop with a condition, if there is one, and with what is done after each turn. -/
  | forLoop (condition : Option Expression) (after : Expression) (body : Statement)
  | forKeys (p : Place) (table : Variable) (body : Statement)
  | block (all : List Statement)
  | next
  | nextFile
  | exit (status : Option Expression)
  | leave (value : Option Expression)
  | stop
  | again
  | delete (table : Variable) (keys : List Expression)
  deriving Inhabited

/-- What tells the records that a rule is for. -/
inductive Condition where
  | every
  | expression (e : Expression)
  /-- From a record on that one expression is for, to one that another is for. -/
  | range (first last : Expression)
  deriving Inhabited

/-- A rule. -/
structure Rule where
  condition : Condition
  action : Statement
  deriving Inhabited

/-- A function of a program. -/
structure Routine where
  name : String
  parameters : List String
  body : Statement
  deriving Inhabited

/-- A program. -/
structure Ruleset where
  beginnings : List Statement := []
  rules : List Rule := []
  endings : List Statement := []
  routines : List Routine := []
  deriving Inhabited

end CommandSpec.Utility.Rules
