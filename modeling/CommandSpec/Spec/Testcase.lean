import CommandSpec.RunError
import CommandSpec.Spec.Directive

/-!
# Testcases

A draft takes the directives of a spec one by one. A `!` line closes the testcase under
construction; what is pending after the last line is the last testcase. A line that cannot be used
is *rejected* and makes its testcase malformed, so that it fails without being run.
-/

namespace CommandSpec

def Testcase.defaultStatus : Int := 0

structure Testcase where
  command : String
  stdin : List String := []
  stdout : List String := []
  stderr : List String := []
  exitStatus : Int := Testcase.defaultStatus
  malformed : Bool := false
  /-- The number of the `!` line, or of the first line before any command. -/
  line : Nat
  deriving DecidableEq, Repr

inductive Rejection where
  | unknownMarker (marker : Char)
  | badStatus (text : String)
  | beforeCommand (marker : Char)
  deriving DecidableEq, Repr

namespace Rejection

def message : Rejection → String
  | unknownMarker marker => "unrecognized marker '" ++ marker.toString ++ "'"
  | badStatus text => "invalid exit status '" ++ text ++ "'"
  | beforeCommand marker => "'" ++ marker.toString ++ "' line before first command"

def error (r : Rejection) (line : Nat) : RunError :=
  { kind := .malformed, message := r.message, line := some line }

end Rejection

namespace Directive

/-- The marker as diagnostics show it; a space stands for a missing one. -/
def shownMarker (d : Directive) : Char :=
  d.marker?.getD ' '

/-- Why the directive is rejected after (`started`) or before the first command, if it is. -/
def rejection? (started : Bool) (d : Directive) : Option Rejection :=
  match d with
  | unknown _ => some (.unknownMarker d.shownMarker)
  | badStatus text => some (.badStatus (.ofList (Text.trim text.toList)))
  | command _ => none
  | blank => none
  | _ => if started then none else some (.beforeCommand d.shownMarker)

end Directive

namespace Testcase

def add (tc : Testcase) : Directive → Testcase
  | .input text => { tc with stdin := tc.stdin ++ [text] }
  | .output text => { tc with stdout := tc.stdout ++ [text] }
  | .errorOutput text => { tc with stderr := tc.stderr ++ [text] }
  | .status n => { tc with exitStatus := n }
  | _ => tc

def start (text : String) (line : Nat) : Testcase :=
  { command := .ofList (Text.trim text.toList), line }

end Testcase

structure Draft where
  current : Testcase := { command := "", line := 0 }
  started : Bool := false
  line : Nat := 0
  deriving DecidableEq, Repr

inductive Taken where
  | inside
  | closed (tc : Testcase)
  | rejected (e : RunError)
  deriving DecidableEq, Repr

namespace Draft

def empty : Draft := {}

/-- The testcase under construction, if a `!` line or a rejected one has started one. -/
def pending? (d : Draft) : Option Testcase :=
  if d.started || d.current.malformed then some d.current else none

/-- The current testcase, marked malformed. If nothing has started it, the line `line` does. -/
def spoiled (d : Draft) (line : Nat) : Testcase :=
  { d.current with
    malformed := true
    line := if d.started || d.current.malformed then d.current.line else line }

def take (d : Draft) (directive : Directive) : Taken × Draft :=
  let line := d.line + 1
  match directive.rejection? d.started with
  | some rejection => (.rejected (rejection.error line), { d with current := d.spoiled line, line })
  | none =>
    match directive with
    | .command text =>
      (d.pending?.elim .inside .closed,
        { current := .start text line, started := true, line })
    | _ => (.inside, { d with current := d.current.add directive, line })

end Draft

end CommandSpec
