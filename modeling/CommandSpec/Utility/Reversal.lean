import CommandSpec.Regex.Search
import CommandSpec.Utility.Inputs
import CommandSpec.Utility.Outcome

/-!
# `tac`

`tac` writes the records of every input in reverse order. Records end with a separator, or start with
one on request.
-/

namespace CommandSpec.Utility

/-- How a text is cut into records. -/
structure RecordCut where
  /-- How long a separator is that starts at a place of a text, if there is one. -/
  separatorAt : (text : List Char) → (place : Nat) → Option Nat
  /-- Whether separators start records. -/
  before : Bool := false

namespace RecordCut

/-- A fixed separator. -/
def ofText (separator : List Char) (before : Bool) : RecordCut where
  separatorAt text place := if separator.isPrefixOf (text.drop place) then some separator.length else none
  before

/-- Separators that match a pattern. -/
def ofPattern (p : Regex.Pattern) (before : Bool) : RecordCut where
  separatorAt text place :=
    ((p.matchAt {} text place).map fun m => m.stop - m.start).filter (· > 0)
  before

/-- The records of a text, the last one first. `line` is the text up to where it was cut before, and
places from `place` down are tried. -/
def recordsFrom (r : RecordCut) : (place : Nat) → (line : List Char) → List (List Char)
  | 0, line =>
    match r.separatorAt line 0 with
    | some n =>
      if r.before then [line] else if line.length = n then [line] else [line.drop n, line.take n]
    | none => if line.isEmpty then [] else [line]
  | place + 1, line =>
    match r.separatorAt line (place + 1) with
    | some n =>
      let cut := if r.before then place + 1 else place + 1 + n
      if cut = line.length then r.recordsFrom place line
      else line.drop cut :: r.recordsFrom place (line.take cut)
    | none => r.recordsFrom place line

/-- A text with its records in reverse order. -/
def reverse (r : RecordCut) (text : List Char) : List Char :=
  (r.recordsFrom text.length text).flatten

end RecordCut

/-- The lines of a text in reverse order. -/
def reverseLines (text : String) : String :=
  .ofList (closedRecords '\n' text).reverse.flatten

/-- Write records in reverse order: `tac [-b] [-r] [-s separator] [file…]`. -/
def tac (args : List String) : Task Nat :=
  let table : OptionTable :=
    { flags := "br", valued := "s", names := [("before", "b"), ("regex", "r"), ("separator", "s")] }
  withOptions table args fun a => do
    let separator := ((a.value? "s").getD "\n").toList
    let before := a.has "b"
    let cut? : Except RegexFault (String → String) :=
      if separator = ['\n'] && !before then .ok reverseLines
      else if a.has "r" then (Regex.Pattern.ofText {} separator).map fun p text =>
        .ofList ((RecordCut.ofPattern p before).reverse text.toList)
      else
        let separator := if separator.isEmpty then [Char.ofNat 0] else separator
        .ok fun text => .ofList ((RecordCut.ofText separator before).reverse text.toList)
    match cut? with
    | .error e => failWith 1 e.message
    | .ok turn =>
      forOperands (orStdin a.operands) fun operand => do
        let fd ← if operand = "-" then pure (.ok 0) else Task.openPath operand .read
        match fd with
        | .error e => refuse ("failed to open " ++ inQuotes operand ++ " for reading: " ++ e.wording)
        | .ok fd =>
          let content ← Task.readAll fd
          if operand ≠ "-" then Task.close fd
          match content with
          | .ok text =>
            Task.print (turn text)
            return true
          | .error e =>
            let e := if e = .isDirectory then OsError.invalid else e
            refuse (forShell operand ++ ": read error: " ++ e.wording)

end CommandSpec.Utility
