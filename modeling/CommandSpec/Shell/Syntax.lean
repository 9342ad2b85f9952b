/-!
# The syntax of the command language

A script is a list of commands. A command is simple (assignments, words and redirections) or built
from others. A word is a sequence of segments, each literal text or something to be expanded; a
segment remembers whether it stood in quotes, because what stands in quotes is neither split into
fields nor matched against file names.
-/

namespace CommandSpec.Shell

/-- What a parameter is replaced by when it is unset, or set. -/
inductive Alternative where
  /-- Use the word instead (`-`). -/
  | default
  /-- Assign the word (`=`). -/
  | assign
  /-- Complain with the word (`?`). -/
  | complain
  /-- Use the word if the parameter is set (`+`). -/
  | replace
  deriving DecidableEq, Repr, Inhabited

/-- Which end of a value a pattern is cut from, and whether as much as possible is cut. -/
structure Trimming where
  fromEnd : Bool
  longest : Bool
  deriving DecidableEq, Repr, Inhabited

mutual

/-- A part of a word. -/
inductive Segment where
  /-- Literal text. -/
  | text (quoted : Bool) (s : String)
  /-- A parameter with what is done to its value. -/
  | parameter (quoted : Bool) (name : String) (modifier : Modifier)
  /-- The output of a script. -/
  | command (quoted : Bool) (script : Command)
  /-- The value of an arithmetic expression. -/
  | arithmetic (quoted : Bool) (expression : List Segment)

/-- What is done to the value of a parameter. -/
inductive Modifier where
  | plain
  | length
  /-- Another word when the parameter is unset, or with `orEmpty` also when it is empty. -/
  | alternative (kind : Alternative) (orEmpty : Bool) (word : List Segment)
  | trim (how : Trimming) (pattern : List Segment)
  /-- Something that has no meaning. -/
  | meaningless

/-- Where a descriptor is redirected. -/
inductive Redirect where
  /-- To what a word names. -/
  | file (fd : Nat) (operator : String) (target : List Segment)
  /-- From a document given with the command. -/
  | document (fd : Nat) (body : List Segment)

/-- A command. -/
inductive Command where
  | simple (line : Nat) (assignments : List (String × List Segment)) (words : List (List Segment))
      (redirects : List Redirect)
  | pipeline (negated : Bool) (stages : List Command)
  /-- The second command if the first one succeeds (`&&`). -/
  | both (first second : Command)
  /-- The second command if the first one fails (`||`). -/
  | either (first second : Command)
  | sequence (commands : List Command)
  | background (body : Command)
  /-- A compound command that tells the line it stands in. -/
  | placed (line : Nat) (body : Command)
  | subshell (body : Command)
  | redirected (body : Command) (redirects : List Redirect)
  | conditional (test body : Command) (otherwise : Option Command)
  /-- A loop with `while`, or with `until` when `negated`. -/
  | loop (negated : Bool) (test body : Command)
  | forEach (name : String) (words : Option (List (List Segment))) (body : Command)
  | choose (subject : List Segment) (cases : List (List (List Segment) × Command))
  | function (name : String) (body : Command)

end

/-- A sequence of segments. -/
abbrev Word := List Segment

instance : Inhabited Segment := ⟨.text false ""⟩
instance : Inhabited Modifier := ⟨.plain⟩
instance : Inhabited Redirect := ⟨.document 0 []⟩
instance : Inhabited Command := ⟨.sequence []⟩

/-- Whether a character may start the name of a variable. -/
def isNameStart (c : Char) : Bool :=
  c.isAlpha || c = '_'

/-- Whether a character may go on in the name of a variable. -/
def isNameChar (c : Char) : Bool :=
  c.isAlphanum || c = '_'

/-- Whether a character is the name of a special parameter. -/
def isSpecialParameter (c : Char) : Bool :=
  "@*#?-$!".toList.contains c

/-- The special commands: assignments before them stay, and no function has their names. -/
def specialCommands : List String :=
  [".", ":", "break", "continue", "eval", "exec", "exit", "export", "local", "readonly", "return", "set",
    "shift", "times", "trap", "unset"]

/-- Whether a text is the name of a variable. -/
def isName (s : String) : Bool :=
  match s.toList with
  | [] => false
  | c :: cs => isNameStart c && cs.all isNameChar

end CommandSpec.Shell
