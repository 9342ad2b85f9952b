import CommandSpec.Utility.Arguments

/-!
# What became of operands

Most utilities act on their operands one by one. What goes wrong with one is complained about, and the
others are still acted on; in the end the status tells whether all of it worked.
-/

namespace CommandSpec.Utility

/-- Do something for every operand: 0 when all of it worked, else 1. -/
def forOperands (operands : List String) (action : String → Task Bool) : Task Nat := do
  let done ← operands.mapM action
  return if done.all id then 0 else 1

/-- Complain when a change was refused; whether it worked. -/
def settle (complaint : String) : Except OsError Unit → Task Bool
  | .ok () => return true
  | .error e => do
    Task.complain (complaint ++ ": " ++ e.wording)
    return false

/-- Complain about what cannot be done, and that it did not work. -/
def refuse (complaint : String) : Task Bool := do
  Task.complain complaint
  return false

/-- End with a complaint. -/
def failWith (status : Nat) (complaint : String) : Task Nat := do
  Task.complain complaint
  return status

/-- Tell of something done when that is wanted, and that it worked. -/
def tell (wanted : Bool) (text : String) : Task Bool := do
  if wanted then Task.printLine text
  return true

/-- Tell of something done, after the name of the utility, when that is wanted. -/
def announce (wanted : Bool) (text : String) : Task Unit := do
  if wanted then Task.printLine ((← read).speaker ++ ": " ++ text)

/-- The kind of a node in words. -/
def describeKind (n : Node) : String :=
  match n.content with
  | .file bytes => if bytes.isEmpty then "regular empty file" else "regular file"
  | .program _ => "regular file"
  | .directory _ => "directory"
  | .symbolic _ => "symbolic link"
  | .fifo _ => "fifo"
  | .device _ => "character special file"

/-- The node that a path names, which may be a symbolic link, or why there is none. -/
def lookLink (path : String) : Task (Except OsError Node) := do
  let (files, cwd) ← Task.place
  return (files.resolveLink cwd path).map files.node

/-- The node that a path leads to, or why there is none. -/
def look (path : String) : Task (Except OsError Node) := do
  let (files, cwd) ← Task.place
  return (files.resolve cwd path).map files.node

end CommandSpec.Utility
