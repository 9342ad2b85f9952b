import CommandSpec.Text.Blank
import CommandSpec.Text.Integer

/-!
# Directives

The first character of a line, its *marker*, says what the rest of it is: `!` a command, `<` a line
of its input, `>` and `/` one of its output and errors, `?` its exit status, `#` a comment.
-/

namespace CommandSpec

inductive Directive where
  | command (text : String)
  | input (text : String)
  | output (text : String)
  | errorOutput (text : String)
  | status (n : Int)
  | badStatus (text : String)
  | blank
  | unknown (line : String)
  deriving DecidableEq, Repr

namespace Directive

def marker? : Directive → Option Char
  | command _ => some '!'
  | input _ => some '<'
  | output _ => some '>'
  | errorOutput _ => some '/'
  | status _ => some '?'
  | badStatus _ => some '?'
  | blank => none
  | unknown line => line.toList.head?

def dropFinal (c : Char) (cs : List Char) : List Char :=
  if cs.getLast? = some c then cs.dropLast else cs

/-- The line less one newline, if there is one, and then one carriage return, if there is one. -/
def dropTerminator (cs : List Char) : List Char :=
  dropFinal '\r' (dropFinal '\n' cs)

def ofStatus (rest : List Char) : Directive :=
  match Text.readInt32? (Text.trim rest) with
  | some n => status n
  | none => badStatus (.ofList rest)

/-- The directive of a line whose leading blanks are gone. -/
def ofLine : List Char → Directive
  | [] => blank
  | '!' :: rest => command (.ofList (dropTerminator rest))
  | '<' :: rest => input (.ofList (dropTerminator rest))
  | '>' :: rest => output (.ofList (dropTerminator rest))
  | '/' :: rest => errorOutput (.ofList (dropTerminator rest))
  | '?' :: rest => ofStatus (dropTerminator rest)
  | '#' :: _ => blank
  | '\n' :: _ => blank
  | '\r' :: _ => blank
  | line => unknown (.ofList (dropTerminator line))

def classify (line : String) : Directive :=
  ofLine line.toList

end Directive

end CommandSpec
