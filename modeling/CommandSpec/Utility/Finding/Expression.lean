import CommandSpec.Regex.Search
import CommandSpec.Shell.Pattern
import CommandSpec.Utility.Listing

/-!
# What is asked of the files that are found

An expression asks whether something holds of a file, or acts on it. Questions and actions are joined by
words for *not*, *and* and *or*, and those on the right are left alone when the left one decides.
-/

namespace CommandSpec.Utility.Finding

/-- A number to compare with, and how. -/
structure Bound where
  relation : Ordering
  value : Nat
  deriving DecidableEq, Repr, Inhabited

/-- Whether a number is within a bound. -/
def Bound.holds (b : Bound) (n : Nat) : Bool :=
  compare n b.value == b.relation

/-- Which permissions are asked for. -/
inductive PermissionRule where
  | exactly
  | all
  | any
  deriving DecidableEq, Repr, Inhabited

/-- A question about a file. -/
inductive Question where
  | always (answer : Bool)
  /-- Whether the last name matches. -/
  | name (pattern : List Shell.PatternItem) (ignoresCase : Bool)
  /-- Whether the whole path matches. -/
  | path (pattern : List Shell.PatternItem) (ignoresCase : Bool)
  /-- Whether the target of a symbolic link matches. -/
  | target (pattern : List Shell.PatternItem) (ignoresCase : Bool)
  | regex (pattern : Regex.Pattern)
  /-- Whether the kind is one of some letters; with `follows` it is that of what a link leads to. -/
  | kind (letters : List Char) (follows : Bool)
  | empty
  | size (unit : Nat) (bound : Bound)
  /-- Whether a time is before or after a moment, or in a time span from the moment on. -/
  | aged (time : TimeKind) (relation : Ordering) (moment : Int) (span : Nat)
  | permission (rule : PermissionRule) (bits : Nat)
  | links (bound : Bound)
  | inode (bound : Bound)
  /-- Whether the number of the user that owns it is within a bound. -/
  | owner (bound : Bound)
  /-- Whether the number of the group that owns it is within a bound. -/
  | group (bound : Bound)
  /-- Whether it is a certain file. -/
  | same (inode : Inode)
  | executable
  deriving Inhabited

/-- A piece of a format. -/
inductive Piece where
  | text (cs : List Char)
  /-- A letter with flags, a width and a precision; a time has a letter of its own. -/
  | field (letter : Char) (detail : Option Char) (flags : List Char) (width precision : Option Nat)
  /-- The end of all output. -/
  | stop
  deriving DecidableEq, Repr, Inhabited

/-- An action on a file. -/
inductive Action where
  /-- Write the path with something after it. -/
  | print (ending : String)
  | format (pieces : List Piece)
  /-- Tell about the file in one line. -/
  | list
  /-- Run a command; `asks` tells whether that has to be confirmed. -/
  | run (command : List String) (inDirectory asks : Bool)
  /-- Run a command on many paths at once; `number` tells several of these actions apart. -/
  | gather (number : Nat) (command : List String) (inDirectory : Bool)
  | delete
  /-- Do not go into the directory. -/
  | prune
  /-- Find no more. -/
  | quit
  deriving Inhabited

/-- An expression. An action writes to standard output or to a file. -/
inductive Expression where
  | question (q : Question)
  | action (a : Action) (output : Option String)
  | negation (e : Expression)
  | both (a b : Expression)
  | either (a b : Expression)
  /-- One after the other; the last one tells the answer. -/
  | sequence (a b : Expression)
  deriving Inhabited

/-- Whether an action makes it needless to write the path. -/
def Action.isEnough : Action → Bool
  | prune => false
  | quit => false
  | _ => true

/-- What holds for the whole search. -/
structure Settings where
  /-- Whether symbolic links are followed, everywhere or where the search starts. -/
  followsAll : Bool := false
  followsStarts : Bool := false
  /-- Whether a directory comes after what is in it. -/
  contentsFirst : Bool := false
  least : Nat := 0
  most : Option Nat := none
  /-- The files that actions write to. -/
  outputs : List String := []
  /-- How many actions gather paths. -/
  gathers : Nat := 0
  deriving Inhabited

end CommandSpec.Utility.Finding
