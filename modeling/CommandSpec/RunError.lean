import CommandSpec.Fault

/-!
# Errors of a run

A run error says what went wrong and, as far as that is known, in which file, at which line and for
which command.
-/

namespace CommandSpec

inductive RunError.Kind where
  | malformed
  | spawn
  | chdir
  | io
  deriving DecidableEq, Repr

/-- An error of a run, with as much of its place as is known. -/
structure RunError where
  kind : RunError.Kind
  message : String
  file : Option String := none
  line : Option Nat := none
  command : Option String := none
  deriving DecidableEq, Repr

namespace RunError

def ofFault (fault : Fault) : RunError :=
  { kind := .io, message := fault.text }

def inFile (e : RunError) (file : String) : RunError :=
  { e with file := some file }

def atLine (e : RunError) (line : Nat) : RunError :=
  { e with line := some line }

def located (e : RunError) (file : String) (line : Nat) : RunError :=
  { e with file := some file, line := some line }

/-- The error, told of a command. -/
def ofCommand (e : RunError) (command : String) : RunError :=
  { e with command := some command }

def isSpawn (e : RunError) : Bool :=
  e.kind = .spawn

/-- The known parts of the place, joined by a colon, and a separator after them. -/
def location : Option String → Option Nat → String
  | some file, some line => file ++ ":" ++ toString line ++ ": "
  | some file, none => file ++ ": "
  | none, some line => toString line ++ ": "
  | none, none => ""

/-- The error as one line of text: `file:line: command: message`, less what is unknown. -/
def render (e : RunError) : String :=
  location e.file e.line ++ (e.command.elim "" (· ++ ": ")) ++ e.message

end RunError

end CommandSpec
