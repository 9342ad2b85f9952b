import CommandSpec.Shell.Builtin.Variables

/-!
# Commands about signals and jobs

`trap`, `kill`, `wait` and `jobs`.
-/

namespace CommandSpec.Shell.Builtin

open Eval

/-! ## Actions for signals -/

/-- Tell the kernel what a signal is to do. -/
def setSignal (n : Nat) (action : Option String) : Call Unit :=
  Call.modifySelf fun p =>
    let ignored := p.ignored.filter (· ≠ n)
    let caught := p.caught.filter (· ≠ n)
    match action with
    | none => { p with ignored, caught }
    | some "" => { p with ignored := n :: ignored, caught }
    | some _ => { p with ignored, caught := n :: caught }

/-- Set or take away the action for signals. A signal that was ignored from the start stays so. -/
def setTrap (action : Option String) : List String → Eval Nat
  | [] => return 0
  | name :: rest => do
    match signal? name with
    | none =>
      task (Task.remark ("trap: " ++ name ++ ": bad trap"))
      return 1
    | some n =>
      modify fun s =>
        let others := s.traps.filter (·.1 != n)
        { s with traps := action.elim others fun a => (n, a) :: others }
      if n ≠ 0 && !(← get).deaf.contains n then call (setSignal n action)
      setTrap action rest

/-- Set or show actions for signals: `trap [action] [signal…]`. -/
def trap (args : List String) : Eval Nat := do
  match ← operandsOf args with
  | [] =>
    for (n, action) in (← get).traps.mergeSort (·.1 ≤ ·.1) do
      task (Task.printLine ("trap -- " ++ singleQuoted action ++ " " ++ signalName n))
    return 0
  | [only] => setTrap none [only]
  | action :: names =>
    if (Text.readNumber? action).any (· ≤ 64) then setTrap none (action :: names)
    else setTrap (if action = "-" then none else some action) names

/-! ## Sending signals -/

/-- How `kill` is used. -/
def killUsage : String :=
  "Usage: kill [-s sigspec | -signum | -sigspec] [pid | job]... or\nkill -l [exitstatus]"

/-- What `kill` is asked to do. -/
inductive KillRequest where
  | send (signal : Nat) (targets : List String)
  | list (statuses : List String)
  | wrong (complaint : String)
  deriving Inhabited

/-- The number of a signal that `kill` may send. -/
def sendable? (name : String) : Option Nat :=
  (signal? name).filter fun n => n ≠ 0 || (Text.readNumber? name).isSome

/-- The options of `kill` after its operands are told apart. -/
def killOptions (operands : List String) : (listed : Bool) → (signal? : Option Nat) →
    List (Char × String) → KillRequest
  | listed, signal?, [] =>
    if listed then
      if signal?.isSome && !operands.isEmpty then .wrong killUsage else .list operands
    else if operands.isEmpty then .wrong killUsage
    else .send (signal?.getD endSignal) operands
  | listed, signal?, (letter, name) :: rest =>
    if letter = 'l' then killOptions operands true signal? rest
    else
      match sendable? name with
      | some n => killOptions operands listed (some n) rest
      | none => .wrong ("invalid signal number or name: " ++ name)

/-- Read the arguments of `kill`. -/
def readKill (args : List String) : KillRequest :=
  match args with
  | [] => .wrong killUsage
  | first :: rest =>
    let named? := match first.toList with
      | '-' :: name => sendable? (.ofList name)
      | _ => none
    match named? with
    | some n => if rest.isEmpty then .wrong killUsage else .send n rest
    | none =>
      match readFlags ['l'] ['s'] args with
      | .error e => .wrong e
      | .ok (found, operands) => killOptions operands false none found

/-- The job that a word such as `%1` or `%%` names, or a complaint that leaves the shell. -/
def jobOf (word : String) : Eval Job := do
  let jobs := (← get).jobs
  let (found, complaint) := match word.toList with
    | ['%'] => (jobs.head?, "No current job")
    | ['%', '%'] => (jobs.head?, "No current job")
    | ['%', '+'] => (jobs.head?, "No current job")
    | ['%', '-'] => (jobs[1]?, "No previous job")
    | '%' :: digits =>
      (jobs.find? fun j => some j.number = Text.readNumberIn? 10 digits, "No such job: " ++ word)
    | _ => (none, "No such job: " ++ word)
  match found with
  | some j => return j
  | none => abort complaint

/-- Send a signal to processes. No job is a group of processes of its own, so nothing is sent to a
group. -/
def killAll (signal : Nat) : List String → Eval Nat
  | [] => return 0
  | target :: rest => do
    let sent ←
      match target.toList with
      | '%' :: _ =>
        let _ ← jobOf target
        pure false
      | '-' :: digits =>
        let _ ← number (.ofList digits)
        pure false
      | _ => do
        let pid ← number target
        call (Call.kill pid signal)
    if !sent then complain (OsError.noProcess.wording ++ "\n")
    let status ← killAll signal rest
    return if sent then status else 1

/-- List the names of all signals, or of the one that a status tells of: `kill -l [status]`. -/
def listSignals (args : List String) : Eval Nat := do
  match args with
  | [] => task (Task.print (blockOfLines ("0" :: (signals.drop 1).map Prod.fst)))
  | status :: _ =>
    let n ← number status
    let wanted := if n > 128 then n - 128 else n
    match signals.find? fun x => x.2 = wanted && wanted ≠ 0 with
    | some (name, _) => task (Task.printLine name)
    | none => abort ("invalid signal number or exit status: " ++ status)
  return 0

/-- Send a signal, `kill [-s signal] process…`, or list signals. -/
def kill (args : List String) : Eval Nat := do
  match readKill args with
  | .send signal targets =>
    let status ← killAll signal targets
    task (Task.pause 5)
    return status
  | .list statuses => listSignals statuses
  | .wrong complaint => abort complaint

/-! ## Jobs -/

/-- A job that was waited for. -/
def markWaited (number : Nat) : Eval Unit :=
  modify fun s => { s with
    jobs := s.jobs.map fun j => if j.number = number then { j with waited := true } else j }

/-- Wait for jobs or processes one after another: the status of the last one that is known. A signal
that the shell acts on ends the wait. -/
def waitEach : (status : Nat) → List String → Eval Nat
  | status, [] => return status
  | status, word :: rest => do
    let found ←
      if word.toList.head? = some '%' then
        pure (some (← jobOf word))
      else
        let pid ← number word
        pure ((← get).jobs.find? fun j => j.leader = pid)
    match found with
    | none => waitEach status rest
    | some j =>
      if ← waitAll true true Task.patience j.pids then
        return 128 + (← call Call.self).arrived.headD 0
      markWaited j.number
      waitEach (((← get).endings.lookup j.leader).map Ending.number |>.getD 127) rest

/-- Wait for background commands: `wait [process…]`. Without operands all of them are waited for, and
the status is 0. -/
def wait (args : List String) : Eval Nat := do
  match ← operandsOf args with
  | [] =>
    let jobs := (← get).jobs
    if ← waitAll true false Task.patience (jobs.flatMap Job.pids) then
      return 128 + (← call Call.self).arrived.headD 0
    for j in jobs do
      markWaited j.number
    return 0
  | words => waitEach 127 words

/-- The state of a job in words. -/
def stateOf (endings : List (Nat × Ending)) (j : Job) : String :=
  match j.ending? endings with
  | none => "Running"
  | some (.exited 0) => "Done"
  | some (.exited n) => "Done(" ++ toString n ++ ")"
  | some (.killed n) => signalText n

/-- Note which children have ended, without waiting; at most `fuel` of them. -/
def noteEnded : (fuel : Nat) → Eval Unit
  | 0 => return
  | fuel + 1 => do
    if (← call do return (← get).endedChildren).isEmpty then return
    let _ ← waitAny false fun _ => false
    noteEnded fuel

/-- A text with blanks after it, up to a width. -/
def padded (width : Nat) (s : String) : String :=
  s ++ .ofList (List.replicate (width - s.length) ' ')

/-- Show a job: its number and state, with the numbers of its processes if they are asked for. -/
def showJob (withProcesses : Bool) (j : Job) : Eval Unit := do
  let s ← get
  let mark := match s.jobs.map Job.number with
    | first :: rest =>
      if first = j.number then "+" else if rest.head? = some j.number then "-" else " "
    | [] => " "
  let head := "[" ++ toString j.number ++ "] " ++ mark ++ " "
  let state := stateOf s.endings j
  if withProcesses then
    task (Task.printLine (padded 33 (head ++ toString j.leader ++ " " ++ state)))
    for pid in j.pids.drop 1 do
      task (Task.printLine (padded 33 (padded head.length "" ++ toString pid) ++ "| "))
  else
    let others := String.join (List.replicate (j.pids.length - 1) " | ")
    task (Task.printLine (padded 33 (head ++ state) ++ others))

/-- Show jobs, or all of them, the latest first; those that have ended are shown once:
`jobs [-lp] [job…]`. -/
def jobs (args : List String) : Eval Nat := do
  let (flags, words) ← flagsOf "lp" args
  noteEnded 10000
  let shown ← if words.isEmpty then do pure (← get).jobs else words.mapM jobOf
  for j in shown do
    if flags.contains 'p' then task (Task.printLine (toString j.leader))
    else showJob (flags.contains 'l') j
  if !flags.contains 'p' then
    modify fun s =>
      let isOver (j : Job) : Bool :=
        (shown.map Job.number).contains j.number && (j.ending? s.endings).isSome
      { s with jobs := s.jobs.filter (!isOver ·) }
  return 0

/-- Refuse to go on with a job in the foreground or in the background: jobs are not controlled. -/
def resume (args : List String) : Eval Nat := do
  let words ← operandsOf args
  let _ ← jobOf (words.headD "%")
  abort ("job " ++ words.headD "(null)" ++ " not created under job control")

end CommandSpec.Shell.Builtin
