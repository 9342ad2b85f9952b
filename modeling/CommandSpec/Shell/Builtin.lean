import CommandSpec.Shell.Builtin.Jobs
import CommandSpec.Shell.Builtin.Limits
import CommandSpec.Shell.Builtin.Options
import CommandSpec.Shell.Builtin.Place
import CommandSpec.Shell.Builtin.Reading
import CommandSpec.Utility.Catalog

/-!
# Commands that a shell runs itself

These commands change the shell or need its state, and none of them runs a script. A command answers
its exit status; one that stops the shell, a loop or a function throws.
-/

namespace CommandSpec.Shell.Builtin

open Eval

/-- Do something whose output may be refused; a refused write makes it fail. -/
def refusable (body : Eval Nat) : Eval Nat := do
  call (Call.modifySelf fun p => { p with refusal := none })
  let status ← body
  if (← call Call.self).refusal.isSome then
    call (Call.modifySelf fun p => { p with refusal := none })
    complain ((← get).command ++ ": I/O error")
    return 1
  return status

/-- Run a utility inside the shell. -/
def utility (program : List String → Task Nat) (args : List String) : Eval Nat := refusable do
  let speaker ← speaker
  let environment ← environment
  let launch := (← get).launch
  task (Task.within (fun c => { c with speaker, environment, launch }) (program args))

/-- Show the times that the shell and its children took, which are none. -/
def times (_ : List String) : Eval Nat := do
  task (Task.print "0m0.000000s 0m0.000000s\n0m0.000000s 0m0.000000s\n")
  return 0

/-- The commands that change the shell itself; assignments before them stay. -/
def special : List (String × (List String → Eval Nat)) :=
  [ (":", fun _ => return 0), ("break", leave), ("continue", again), ("exit", exit),
    ("export", markExported), ("local", makeLocal), ("readonly", markReadOnly), ("return", giveBack), ("set", setOptions),
    ("shift", shift), ("times", times), ("trap", trap), ("unset", unset) ]

/-- The other commands that the shell runs itself. -/
def regular : List (String × (List String → Eval Nat)) :=
  [ ("[", utility (Utility.test true)), ("alias", aliasOrShow), ("bg", resume), ("cd", cd), ("chdir", cd),
    ("echo", utility Utility.shellEcho), ("false", fun _ => return 1), ("fg", resume),
    ("getopts", getOptions), ("jobs", jobs), ("kill", kill),
    ("printf", utility Utility.printf), ("pwd", pwd), ("read", readFields),
    ("test", utility (Utility.test false)), ("true", fun _ => return 0), ("ulimit", ulimit),
    ("umask", umask), ("unalias", unalias), ("wait", wait) ]

/-- The names of the other commands, with those that run others. -/
def regularNames : List String :=
  ["command", "hash", "type"] ++ regular.map Prod.fst

/-- The commands whose arguments may be assignments, which are expanded as such. -/
def assigningNames : List String :=
  ["export", "readonly", "local", "alias"]

end CommandSpec.Shell.Builtin
