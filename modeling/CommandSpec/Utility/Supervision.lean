import CommandSpec.Shell.Signal
import CommandSpec.Text.Integer
import CommandSpec.Utility.Amount
import CommandSpec.Utility.Children
import CommandSpec.Utility.Environment
import CommandSpec.Utility.Outcome
import CommandSpec.Utility.Waiting

/-!
# `nice`, `nohup`, `stdbuf` and `timeout`

These utilities run a program under a condition: it leaves more of the time to others, it outlives the end of
its session, it writes without delay, or it has to end within a time span.
-/

namespace CommandSpec.Utility

/-- Go on as a program in place of a utility, or complain in some words that it cannot be run. -/
def goOnOr (complaint : String → OsError → String) (name : String) (args : List String) : Task Nat := do
  let { launch, environment, .. } ← read
  match ← locate name with
  | .program path => Task.become (launch environment path name args)
  | .denied =>
    Task.complain (complaint name .accessDenied)
    return 126
  | .missing =>
    Task.complain (complaint name .noEntry)
    return 127

/-- The complaint about a program that cannot be run. -/
def failedToRun (name : String) (e : OsError) : String :=
  "failed to run command " ++ inQuotes name ++ ": " ++ e.wording

/-! ## Conditions that are set once -/

/-- Arguments of `nice` in which a number alone was made an adjustment. -/
def niceArguments : List String → List String
  | [] => []
  | arg :: rest =>
    match arg.toList with
    | '-' :: '-' :: c :: cs =>
      if c.isDigit then .ofList ('-' :: 'n' :: '-' :: c :: cs) :: niceArguments rest else arg :: rest
    | '-' :: c :: cs =>
      if c.isDigit || c = '+' then .ofList ('-' :: 'n' :: c :: cs) :: niceArguments rest
      else if arg = "-n" then
        match rest with
        | value :: rest => arg :: value :: niceArguments rest
        | [] => [arg]
      else arg :: niceArguments rest
    | _ => arg :: rest

/-- Run a program that leaves more of the time to others: `nice [-n adjustment] [program [argument…]]`. -/
def nice (args : List String) : Task Nat :=
  let table : OptionTable := { valued := "n", names := [("adjustment", "n")], ordered := true }
  let run (a : Arguments) : Task Nat := do
    let level := (← Task.call Call.self).niceness
    let text := (a.value? "n").getD "10"
    let digits := if text.toList.head? = some '+' then text.toList.drop 1 else text.toList
    match Text.readInteger? digits, a.operands with
    | none, _ => failWith 125 ("invalid adjustment " ++ inQuotes text)
    | some _, [] =>
      if a.has "n" then misuse "a command must be given with an adjustment" 125
      else
        Task.printLine (toString level)
        return 0
    | some n, name :: args =>
      Task.call (Call.modifySelf fun p => { p with niceness := max (-20) (min 19 (level + n)) })
      goOnOr (fun name e => inQuotes name ++ ": " ++ e.wording) name args
  withOptions table (niceArguments args) run 125

/-- Run a program that outlives the end of its session: `nohup program [argument…]`. -/
def nohup (args : List String) : Task Nat :=
  let run (a : Arguments) : Task Nat := do
    match a.operands with
    | [] => misuse "missing operand" 125
    | name :: args =>
      Task.call (Call.modifySelf fun p => { p with ignored := 1 :: p.ignored })
      goOnOr failedToRun name args
  withOptions { ordered := true } args run 125

/-- Run a program that writes with or without delay, which makes no difference to what it writes:
`stdbuf [-i mode] [-o mode] [-e mode] program [argument…]`. -/
def stdbuf (args : List String) : Task Nat :=
  let table : OptionTable :=
    { valued := "ioe", names := [("input", "i"), ("output", "o"), ("error", "e")], ordered := true }
  let run (a : Arguments) : Task Nat := do
    let isMode (text : String) : Bool := text = "L" || (readAmount "KMGTPEZYkB" text).toOption.isSome
    if a.options.any fun o => o.1 = "i" && o.2 = "L" then
      return (← misuse "line buffering stdin is meaningless" 125)
    if let some (_, bad) := a.options.find? (!isMode ·.2) then
      return (← failWith 125 ("invalid mode " ++ inQuotes bad))
    match a.operands with
    | [] => misuse "missing operand" 125
    | name :: args =>
      if a.options.isEmpty then return (← misuse "you must specify a buffering mode option" 125)
      goOnOr failedToRun name args
  withOptions table args run 125

/-! ## Time spans -/

/-- How a program is kept within a time span. -/
structure TimeLimit where
  span : Nat
  /-- The signal that is sent after it. -/
  signal : Nat := endSignal
  /-- After how much more time the program is killed. -/
  grace : Option Nat := none
  /-- Whether only the program itself is sent the signal, and not what it started. -/
  foreground : Bool := false
  /-- Whether the status is that of the program in any case. -/
  preserves : Bool := false
  verbose : Bool := false
  deriving Inhabited

namespace TimeLimit

/-- Wait for the end of a child, but not longer than a time span if one is given. -/
def awaitChild (pid : Nat) (span : Nat) : Task (Option Ending) := do
  let now ← Task.now
  let wake := if span = 0 then none else some (now + span)
  Task.await (fun k => k.endedChildren.any (·.pid = pid)) wake
  Task.call (Call.reap? pid)

/-- Send a signal to a program and to what it started. -/
def send (l : TimeLimit) (pid signal : Nat) (name : String) : Task Unit := do
  if l.verbose then
    Task.complain ("sending signal " ++ Shell.signalName signal ++ " to command " ++ inQuotes name)
  let family ← Task.call do return (← get).family 64 pid
  for member in if l.foreground then [pid] else family do
    let _ ← Task.call (Call.kill member signal)
  if signal = killSignal && !l.foreground then
    let self ← Task.call Call.self
    let _ ← Task.call (Call.kill self.pid killSignal)
    Task.pause 1

/-- The status that tells of an ending, after the time was up or not. -/
def statusOf (l : TimeLimit) (timedOut : Bool) (ending : Ending) : Task Nat := do
  match ending with
  | .exited n => return if timedOut && !l.preserves then 124 else n
  | .killed signal =>
    if !timedOut then
      let self ← Task.call Call.self
      let _ ← Task.call (Call.kill self.pid signal)
      Task.pause 1
    return if timedOut && !l.preserves && signal ≠ killSignal then 124 else 128 + signal

/-- Wait for a program, and end it when the time is up. -/
def watch (l : TimeLimit) (pid : Nat) (name : String) : Task Nat := do
  match ← awaitChild pid l.span with
  | some ending => l.statusOf false ending
  | none =>
    l.send pid l.signal name
    match l.grace with
    | none => l.statusOf true (← Task.waitFor pid Task.patience)
    | some grace =>
      match ← awaitChild pid grace with
      | some ending => l.statusOf true ending
      | none =>
        l.send pid killSignal name
        l.statusOf true (← Task.waitFor pid Task.patience)

end TimeLimit

/-- Run a program that has to end within a time span:
`timeout [-v] [-k span] [-s signal] [--foreground] [--preserve-status] span program [argument…]`. -/
def timeout (args : List String) : Task Nat :=
  let table : OptionTable :=
    { flags := "v", valued := "ks", words := ["foreground", "preserve-status"], ordered := true
      names := [("kill-after", "k"), ("signal", "s"), ("verbose", "v")] }
  let run (a : Arguments) : Task Nat := do
    let spans := (a.options.filter (·.1 = "k")).map Prod.snd
    let invalid (text : String) : Task Nat := misuse ("invalid time interval " ++ inQuotes text) 125
    if let some bad := spans.find? fun s => (readSpan? s).isNone then return (← invalid bad)
    let name := (a.value? "s").getD "TERM"
    let plain := if "SIG".toList.isPrefixOf name.toList then String.ofList (name.toList.drop 3) else name
    match Shell.signal? plain, a.operands with
    | none, _ => misuse (inQuotes name ++ ": invalid signal") 125
    | some signal, span :: name :: args =>
      match readSpan? span with
      | none => invalid span
      | some time =>
        let l : TimeLimit :=
          { span := time, signal, grace := spans.getLast?.bind readSpan?, foreground := a.has "foreground"
            preserves := a.has "preserve-status", verbose := a.has "v" }
        let pid ← Task.fork (goOnOr failedToRun name args)
        l.watch pid name
    | _, _ => hint 125
  withOptions table args run 125

end CommandSpec.Utility
