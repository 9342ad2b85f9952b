import CommandSpec.Regex.Search

/-!
# Scripts that edit lines

A script is a sequence of commands. Each of them is for some lines: all of them, those with an address,
or those from one address to another one, or all but these. Blocks and jumps change the order in which
the commands are carried out.
-/

namespace CommandSpec.Utility.Editing

/-- A pattern, and whether it sees lines in a text. -/
structure LinesPattern where
  pattern : Regex.Pattern
  multiline : Bool := false
  deriving Inhabited

/-- What lines are called by. -/
inductive Address where
  | number (n : Nat)
  /-- Every so many lines, from a first one on. -/
  | every (first step : Nat)
  | last
  /-- The lines that match; without a pattern, the one that was used last. -/
  | matching (p : Option LinesPattern)
  deriving Inhabited

/-- Where a range of lines ends. -/
inductive RangeEnd where
  | address (a : Address)
  /-- So many lines after the first one. -/
  | after (n : Nat)
  /-- At the next line whose number is a multiple. -/
  | multiple (n : Nat)
  deriving Inhabited

/-- The lines that a command is for. -/
structure Selector where
  first : Option Address := none
  stop : Option RangeEnd := none
  negated : Bool := false
  deriving Inhabited

/-- What becomes of letters. -/
inductive LetterCase where
  | asIs
  | upper
  | lower
  deriving DecidableEq, Repr, Inhabited

/-- A piece of a replacement. -/
inductive ReplacementPart where
  | text (cs : List Char)
  /-- What a group has taken, or the whole match. -/
  | group (n : Nat)
  /-- The letters from here on. -/
  | allLetters (c : LetterCase)
  /-- The next letter. -/
  | oneLetter (c : LetterCase)
  deriving Inhabited

/-- A replacement of matches. -/
structure Substitution where
  /-- Without a pattern, the one that was used last counts. -/
  pattern : Option LinesPattern
  replacement : List ReplacementPart
  /-- The first match that is replaced. -/
  count : Nat := 1
  /-- Whether the matches after it are replaced too. -/
  all : Bool := false
  /-- Whether the text is run as a command then. -/
  evaluates : Bool := false
  /-- Whether the text is written before it is run. -/
  printsBefore : Bool := false
  prints : Bool := false
  /-- The file that the text is written to. -/
  file : Option String := none
  deriving Inhabited

/-- Where a text goes. -/
inductive TextPlace where
  | after
  | before
  | instead
  deriving DecidableEq, Repr, Inhabited

/-- When a jump is made. -/
inductive JumpRule where
  | always
  | replaced
  | notReplaced
  deriving DecidableEq, Repr, Inhabited

/-- What is done to a line. -/
inductive Action where
  /-- Go on with the next command, or else after the end of a block. -/
  | block (stop : Nat)
  | blockEnd
  | text (place : TextPlace) (text : List Char)
  | delete
  | deleteFirst
  | print
  | printFirst
  /-- Show a line without doubt, folded at a width. -/
  | list (width : Option Nat)
  | number
  | inputName
  | next
  | joinNext
  | hold (adds : Bool)
  | fetch (adds : Bool)
  | exchange
  | clear
  | substitute (s : Substitution)
  | translate (pairs : List (Char × Char))
  | jump (rule : JumpRule) (label : String)
  | quit (shows : Bool) (status : Nat)
  | appendFile (path : String)
  | appendLine (path : String)
  | write (path : String) (first : Bool)
  /-- Run a command, or else the line as a command. -/
  | execute (command : List Char)
  deriving Inhabited

/-- A command: what it does, and for which lines. -/
structure Step where
  selector : Selector := {}
  action : Action
  deriving Inhabited

/-- The commands, and the places that jumps can go to. -/
structure Script where
  steps : Array Step := #[]
  labels : List (String × Nat) := []
  /-- Whether lines are only written when a command does it. -/
  silent : Bool := false
  deriving Inhabited

namespace Script

/-- The files that the commands write to. -/
def files (s : Script) : List String :=
  s.steps.toList.filterMap fun step => match step.action with
    | .write path _ => some path
    | .substitute { file, .. } => file
    | _ => none

/-- A label that a jump goes to but no command has. -/
def missingLabel? (s : Script) : Option String :=
  s.steps.toList.findSome? fun step => match step.action with
    | .jump _ label => if label = "" || (s.labels.lookup label).isSome then none else some label
    | _ => none

end Script

end CommandSpec.Utility.Editing
