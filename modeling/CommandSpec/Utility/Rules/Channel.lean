import CommandSpec.Utility.Children
import CommandSpec.Utility.Rules.State

/-!
# Inputs and outputs of a run

A program reads records from its main input, from files and from commands, and writes to its standard
output, to files and to commands. Each file or command is opened once and is known by its name until it
is closed. What is written waits until there is much of it, or until a command is started.
-/

namespace CommandSpec.Utility.Rules

namespace Eval

/-! ## Writing -/

/-- How much may wait to be written. -/
def waitingLimit : Nat := 4096

/-- Write what waits for the standard output. -/
def flushOutput : Eval Unit := do
  let texts := (← get).unwritten
  modify fun m => { m with unwritten := [], unwrittenSize := 0 }
  task (Task.print (String.join texts.reverse))
  if ← task Task.isRefused then
    task (Task.call (Call.modifySelf fun p => { p with refusal := none }))
    fail "write failure on stdout\nclose failure on stdout"

/-- Write what waits for an output. -/
def flushSink (s : Sink) : Eval Sink := do
  if !s.unwritten.isEmpty then
    let _ ← task (Task.write s.fd (String.join s.unwritten.reverse))
  return { s with unwritten := [] }

/-- Write all that waits. -/
def flushAll : Eval Unit := do
  flushOutput
  let sinks ← (← get).sinks.mapM flushSink
  modify fun m => { m with sinks }

/-- Write to the standard output. -/
def emit (text : String) : Eval Unit := do
  modify fun m =>
    { m with unwritten := text :: m.unwritten, unwrittenSize := m.unwrittenSize + text.length }
  if waitingLimit < (← get).unwrittenSize then flushOutput

/-- Open an output. -/
def openSink (d : Drain) (name : String) : Eval Sink := do
  match d with
  | .command =>
    flushAll
    let (fd, pid) ← task (openCommand name false)
    return { name, fd, pid := some pid }
  | _ =>
    let mode : OpenMode := match d with
      | .appended => .append
      | _ => .write
    match ← task (Task.openPath name mode) with
    | .ok fd => return { name, fd }
    | .error e => fail ("cannot open \"" ++ name ++ "\" for output (" ++ e.wording ++ ")")

/-- Write to an output. -/
def emitTo (d : Drain) (name text : String) : Eval Unit := do
  let isFile : Bool := match d with
    | .command => false
    | _ => true
  if isFile && name = "/dev/stdout" then emit text
  else if isFile && name = "/dev/stderr" then
    let _ ← task (Task.write 2 text)
  else
    let isSame (s : Sink) : Bool := s.name = name && s.pid.isNone = isFile
    let sink ← match (← get).sinks.find? isSame with
      | some s => pure s
      | none => openSink d name
    let sink := { sink with unwritten := text :: sink.unwritten }
    let sink ← if waitingLimit < sumOf (sink.unwritten.map String.length) then flushSink sink else pure sink
    modify fun m => { m with sinks := sink :: m.sinks.filter fun s => !isSame s }

/-! ## Closing -/

/-- The number that tells how a command ended. -/
def endingNumber : Ending → Nat
  | .exited n => n
  | .killed n => 256 + n

/-- Close what was opened for a command, and wait for it. -/
def finish (fd : Nat) (pid : Option Nat) : Eval Nat := do
  task (Task.close fd)
  match pid with
  | none => return 0
  | some pid => return endingNumber (← task (Task.waitFor pid Task.patience))

/-- Close an output. -/
def closeSink (s : Sink) : Eval Nat := do
  let s ← flushSink s
  finish s.fd s.pid

/-- Close all that has a name: how it ended, or minus one if there is nothing. -/
def close (name : String) : Eval Int := do
  let m ← get
  let sinks := m.sinks.filter (·.name = name)
  let sources := m.sources.filter (·.name = name)
  set { m with
    sinks := m.sinks.filter (·.name ≠ name)
    sources := m.sources.filter (·.name ≠ name) }
  let first ← sources.mapM fun s => finish s.feed.fd s.pid
  let second ← sinks.mapM closeSink
  return ((first ++ second).getLast?.map Int.ofNat).getD (-1)

/-- Close all outputs. -/
def closeAll : Eval Unit := do
  for s in (← get).sinks do
    let _ ← closeSink s
  modify fun m => { m with sinks := [] }
  flushOutput

/-- Write what waits for all outputs, or for those with a name: whether there are any. -/
def flushNamed (name : Option String) : Eval Bool := do
  match name with
  | none =>
    flushAll
    return true
  | some name =>
    if name = "/dev/stdout" then
      flushOutput
      return true
    if name = "/dev/stderr" then return true
    let isFound := (← get).sinks.any (·.name = name)
    let sinks ← (← get).sinks.mapM fun s => if s.name = name then flushSink s else pure s
    modify fun m => { m with sinks }
    return isFound

/-- Run a command in a shell: how it ended. -/
def runCommand (command : String) : Eval Nat := do
  flushAll
  let pid ← task (startShell command [])
  return endingNumber (← task (Task.waitFor pid Task.patience))

/-! ## Reading -/

/-- Take a record from an input. -/
def takeRecord (f : Feed) : Eval (Option String × Feed) := do
  match ← task (f.next (← get).recordRule Task.patience) with
  | .ok taken => return taken
  | .error e => fail ("read error (" ++ e.wording ++ ")")

/-- Whether a text is a name. -/
def isName (s : String) : Bool :=
  match s.toList with
  | c :: cs => (c.isAlpha || c = '_') && cs.all fun c => c.isAlphanum || c = '_'
  | [] => false

/-- Give a variable a value that an argument of the form `name=value` tells; whether it has this
form. -/
def assignArgument (arg : String) : Eval Bool := do
  let name := String.ofList (arg.toList.takeWhile (· ≠ '='))
  let rest := arg.toList.drop name.length
  if !isName name || rest.isEmpty then return false
  let value := rest.drop 1
  setCommon name (.input (.ofList (unescaped value.length value)))
  return true

/-- The operand with a number, if there is one. -/
def operand? (n : Nat) : Eval (Option String) := do
  let arguments ← table (← tableOf (.common "ARGV"))
  if !arguments.has (.number n) then return none
  return some (← textOf (arguments.get (.number n)))

/-- Start to read the main input under a name. -/
def startMain (name : String) (feed : Feed) (isOwn : Bool) : Eval Unit := do
  modify fun m => { m with main := .opened feed isOwn }
  setCommon "FILENAME" (.text name)
  setCommon "FNR" (.number 0)

/-- Open the first operand from one on that is to be read, or standard input if none was: whether one was
opened. At most `fuel` operands are looked at. -/
def openMain (isFirst : Bool) : (fuel : Nat) → Eval Bool
  | 0 => return false
  | fuel + 1 => do
    let n := (← get).operand
    if (toIndex (← common "ARGC").toNumber) ≤ n then
      if isFirst then startMain "-" { fd := 0 } false
      return isFirst
    modify fun m => { m with operand := n + 1 }
    match ← operand? n with
    | none => openMain isFirst fuel
    | some "" => openMain isFirst fuel
    | some arg =>
      if ← assignArgument arg then openMain isFirst fuel
      else if arg = "-" || arg = "/dev/stdin" then
        startMain arg { fd := 0 } false
        return true
      else
        match ← task (Task.openPath arg .read) with
        | .ok fd =>
          startMain arg { fd } true
          return true
        | .error e => fail ("cannot open \"" ++ arg ++ "\" (" ++ e.wording ++ ")")

/-- Close the input that is the main one now. -/
def closeMain : Eval Unit := do
  if let .opened feed true := (← get).main then task (Task.close feed.fd)
  modify fun m => { m with main := .over }

/-- Take a record from the main input, if there is one; at most `fuel` operands are tried. -/
def nextRecord : (fuel : Nat) → Eval (Option String)
  | 0 => return none
  | fuel + 1 => do
    match (← get).main with
    | .opened feed isOwn =>
      let (record, feed) ← takeRecord feed
      match record with
      | some text =>
        modify fun m => { m with main := .opened feed isOwn }
        let raise (name : String) : Eval Unit := do setCommon name (.number ((← common name).toNumber + 1))
        raise "NR"
        raise "FNR"
        return some text
      | none =>
        closeMain
        nextRecord fuel
    | state =>
      let isFirst : Bool := match state with
        | .unopened => true
        | _ => false
      if ← openMain isFirst (2 ^ 31) then nextRecord fuel else return none

/-- Take a record from the main input, if there is one. -/
def readMain : Eval (Option String) :=
  nextRecord (2 ^ 32)

/-- An input with a name that was opened before, or is opened now if it can be. -/
def source? (isCommand : Bool) (name : String) : Eval (Option Source) := do
  match (← get).sources.find? fun s => s.name = name && s.pid.isSome = isCommand with
  | some s => return some s
  | none =>
    if isCommand then
      flushAll
      let (fd, pid) ← task (openCommand name true)
      return some { name, feed := { fd }, pid := some pid }
    else if name = "-" || name = "/dev/stdin" then return some { name, feed := { fd := 0 } }
    else
      match ← task (Task.openPath name .read) with
      | .ok fd => return some { name, feed := { fd } }
      | .error _ => return none

/-- Take a record from an input with a name: it, if there is one, unless the input cannot be opened. -/
def readNamed (isCommand : Bool) (name : String) : Eval (Option (Option String)) := do
  match ← source? isCommand name with
  | none => return none
  | some s =>
    let (record, feed) ← takeRecord s.feed
    let isSame (x : Source) : Bool := x.name = name && x.pid.isSome = isCommand
    modify fun m => { m with sources := { s with feed } :: m.sources.filter fun x => !isSame x }
    return some record

end Eval

end CommandSpec.Utility.Rules
