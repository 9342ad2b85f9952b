import CommandSpec.Machine.Locate

/-!
# Programs that utilities run

Some utilities run other programs, or hand a text to a shell to run it as a command. Such a child
inherits the standard descriptors; one of them may be something else instead.
-/

namespace CommandSpec.Utility

/-- Start a program on arguments, with some descriptors in place of the inherited ones: its number. -/
def startProgram (path name : String) (args : List String) (changed : List (Nat × Nat)) : Task Nat := do
  let { launch, environment, .. } ← read
  Task.fork do
    let table := (← Task.call Call.self).descriptors.filter (·.1 ≤ 2)
    Task.call (Call.setDescriptors (changed.foldl (fun t d => Call.redirectTo t d.1 d.2) table))
    Task.become (launch environment path name args)

/-- Start a shell on a command, with some descriptors in place of the inherited ones: its number. -/
def startShell (command : String) (changed : List (Nat × Nat)) : Task Nat :=
  startProgram "/bin/sh" "sh" ["-c", command] changed

/-- What a name leads to when it is run as a program. -/
def locate (name : String) : Task Located := do
  let (files, cwd) ← Task.place
  let searchPath := ((← read).environment.lookup "PATH").getD "/bin:/usr/bin"
  return Located.ofName files cwd searchPath name

/-- Start a shell on a command that has one end of a new pipe under a descriptor: the other end under
a descriptor of our own, and the number of the shell. -/
def openCommand (command : String) (reads : Bool) : Task (Nat × Nat) := do
  let p ← Task.call (Call.newPipe {})
  let reader ← Task.call (Call.openNew { stream := .pipe p, readable := true })
  let writer ← Task.call (Call.openNew { stream := .pipe p, writable := true })
  let (ours, theirs) := if reads then (reader, writer) else (writer, reader)
  let kept ← Task.hold ours
  let given ← Task.hold theirs
  let pid ← startShell command [(if reads then 1 else 0, theirs)]
  Task.close given
  return (kept, pid)

/-- Run a command in a shell: what it has written, and how it ended. -/
def outputOf (command : String) : Task (String × Ending) := do
  let (fd, pid) ← openCommand command true
  let text ← Task.readAll fd
  Task.close fd
  return (text.toOption.getD "", ← Task.waitFor pid Task.patience)

end CommandSpec.Utility
