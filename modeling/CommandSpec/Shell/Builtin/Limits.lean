import CommandSpec.Shell.Builtin.Flags
import CommandSpec.Text.Integer

/-!
# `ulimit`

What a process may use is limited twice: by a limit that holds and by a hard one that bounds it. The
shell keeps the limits that were set; those on the size of files and on the number of descriptors are
also the kernel's.
-/

namespace CommandSpec.Shell.Builtin

open Eval

/-- Something that is limited. -/
structure Resource where
  letter : Char
  /-- Its name and unit as they are shown. -/
  shown : String
  /-- The limit that holds at first and the hard one, in its unit; none is no limit. -/
  soft : Option Nat := none
  hard : Option Nat := none

/-- What is limited, in the order in which it is shown. -/
def resources : List Resource :=
  [ { letter := 't', shown := "time(seconds)" }, { letter := 'f', shown := "file(blocks)" },
    { letter := 'd', shown := "data(kbytes)" }, { letter := 's', shown := "stack(kbytes)", soft := some 8192 },
    { letter := 'c', shown := "coredump(blocks)" }, { letter := 'm', shown := "memory(kbytes)" },
    { letter := 'l', shown := "locked memory(kbytes)", soft := some 8192, hard := some 8192 },
    { letter := 'p', shown := "process" },
    { letter := 'n', shown := "nofiles", soft := some 1048576, hard := some 1048576 },
    { letter := 'v', shown := "vmemory(kbytes)" }, { letter := 'w', shown := "locks" },
    { letter := 'r', shown := "rtprio", soft := some 0, hard := some 0 } ]

/-- The limits of something in a shell. -/
def limitsOf (r : Resource) : Eval (Option Nat × Option Nat) :=
  return ((← get).limits.lookup r.letter).getD (r.soft, r.hard)

/-- A limit as it is shown: the hard one only if it is asked for alone. -/
def shownLimit (r : Resource) (hardOnly : Bool) : Eval String := do
  let (soft, hard) ← limitsOf r
  return ((if hardOnly then hard else soft).map toString).getD "unlimited"

/-- Show or set limits: `ulimit [-H|-S] [-a|-letter] [limit]`. -/
def ulimit (args : List String) : Eval Nat := do
  let (flags, operands) ← flagsOf (.ofList ("HSa".toList ++ resources.map Resource.letter)) args
  let how := (flags.filter fun c => c = 'H' || c = 'S').getLast?
  let letter := ((flags.filter fun c => !"HSa".toList.contains c).getLast?).getD 'f'
  let all := flags.contains 'a'
  match operands with
  | [] =>
    for r in resources.filter fun r => all || r.letter = letter do
      let limit ← shownLimit r (how = some 'H')
      let padding := String.ofList (List.replicate (20 - r.shown.length) ' ')
      task (Task.printLine (if all then r.shown ++ padding ++ " " ++ limit else limit))
    return 0
  | text :: more =>
    if all || !more.isEmpty then abort "too many arguments"
    let value? ← if text = "unlimited" then pure none
      else if text = "" then pure (some 0)
      else match Text.readNumber? text with
        | some n => pure (some n)
        | none => abort "bad number"
    for r in resources.filter fun r => r.letter = letter do
      let (soft, hard) ← limitsOf r
      let new := (if how = some 'H' then soft else value?, if how = some 'S' then hard else value?)
      let isBounded := match new with
        | (_, none) => true
        | (none, some _) => false
        | (some soft, some hard) => soft ≤ hard
      if !isBounded then abort "error setting limit (Invalid argument)"
      modify fun s => { s with limits := (letter, new) :: s.limits.filter (·.1 != letter) }
      if letter = 'f' then
        call (Call.modifySelf fun p => { p with sizeLimit := new.1.map (512 * ·) })
      if letter = 'n' then
        call (Call.modifySelf fun p => { p with descriptorLimit := new.1.getD p.descriptorLimit })
    return 0

end CommandSpec.Shell.Builtin
