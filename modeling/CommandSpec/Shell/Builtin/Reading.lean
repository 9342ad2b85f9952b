import CommandSpec.Shell.Builtin.Control
import CommandSpec.Shell.Builtin.Flags
import CommandSpec.Shell.Fields

/-!
# `read`
-/

namespace CommandSpec.Shell.Builtin

open Eval

/-- What came of reading a line: its characters, and whether the input was at its end or could not be
read. -/
structure ReadLine where
  line : List Marked := []
  atEnd : Bool := false
  deriving Inhabited

/-- The lines that `read` takes until one does not go on; `fuel` bounds their number. -/
def readLogicalLine (raw : Bool) : (fuel : Nat) → Eval ReadLine
  | 0 => return { atEnd := true }
  | fuel + 1 => do
    match ← task (Task.readLine 0) with
    | .error _ => return { atEnd := true }
    | .ok line =>
      let (cs, more) := readMarks raw (line.toList.filter (· ≠ Char.ofNat 0))
      if more then
        let next ← readLogicalLine raw fuel
        return { next with line := cs ++ next.line }
      else return { line := cs, atEnd := line.toList.getLast? ≠ some '\n' }

/-- Read a line of standard input into variables: `read [-r] [-p prompt] name…`. A prompt is only for a
terminal. -/
def readFields (args : List String) : Eval Nat := do
  match readFlags ['r'] ['p'] args with
  | .error e => abort e
  | .ok (flags, names) =>
    let raw := flags.any (·.1 = 'r')
    if names.isEmpty then abort "arg count"
    if let some bad := names.find? (!isName ·) then abort (bad ++ ": bad variable name")
    let found ← readLogicalLine raw Task.patience
    let values := splitAmong (← separators) names.length found.line
    for (name, value) in names.zip values do
      assign name value
    return if found.atEnd then 1 else 0

end CommandSpec.Shell.Builtin
