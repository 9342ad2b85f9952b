import CommandSpec.Machine.Kernel
import CommandSpec.Text.Quoting

/-!
# Tasks

A `Program` is what a process still has to do, as a tree: a step that the kernel carries out at once,
a pause, a wait for something, the start of a child, or the end. Because a program stops at each of
these and shows what comes next, several of them can be run in turns.

A `Task` is a part of a program that has a result: it is told what the program does with the result.
It also sees what is fixed for a program while it runs, its `Context`.
-/

namespace CommandSpec

/-- What a process still has to do. -/
inductive Program where
  | finish (status : Nat)
  | step (next : Kernel → Program × Kernel)
  /-- Spend some time, in microseconds. -/
  | pause (cost : Nat) (next : Program)
  /-- Wait until the kernel, with the process as the one that calls, is ready, or until a time if one
  is given. -/
  | await (ready : Kernel → Bool) (wake : Option Nat) (next : Program)
  /-- Start a child, and go on with its number. -/
  | fork (child : Program) (next : Nat → Program)

instance : Inhabited Program := ⟨.finish 0⟩

/-- The variables that a program is given. -/
abbrev Environment := List (String × String)

/-- What is fixed for a program while it runs. -/
structure Context where
  /-- The name that complaints begin with, if any. -/
  speaker : String := ""
  /-- Whether a shell does this itself instead of running a program. -/
  inShell : Bool := false
  environment : Environment := []
  /-- The program that a path stands for, run under a name on arguments. -/
  launch : Environment → (path name : String) → (args : List String) → Program :=
    fun _ _ _ _ => .finish 127
  deriving Inhabited

/-- The value of a variable, if it is set and not empty. -/
def Context.setting? (c : Context) (name : String) : Option String :=
  (c.environment.lookup name).filter (· ≠ "")

/-- The character set that the environment chooses. The only set besides the plain one is chosen by
`C.UTF-8`, in which the case and the dash do not matter. -/
def Context.charset (c : Context) : Charset :=
  match ((c.setting? "LC_ALL").or ((c.setting? "LC_CTYPE").or (c.setting? "LANG"))).map String.toList with
  | some ('C' :: '.' :: codes) =>
    if (codes.filter Char.isAlphanum).map Char.toLower = "utf8".toList then .utf8 else .bytes
  | _ => .bytes

/-- A part of a program with a result. -/
def Task (α : Type) : Type :=
  Context → (α → Program) → Program

namespace Task

instance : Monad Task where
  pure a := fun _ k => k a
  bind x f := fun c k => x c fun a => f a c k

instance : MonadReaderOf Context Task where
  read := fun c k => k c

/-- Ask something of the kernel. -/
def call {α : Type} (x : Call α) : Task α := fun _ k => .step fun kernel =>
  let (a, kernel) := x.run kernel
  (k a, kernel)

/-- Do something in another context. -/
def within {α : Type} (f : Context → Context) (x : Task α) : Task α := fun c k =>
  x (f c) k

/-- End the process. -/
def exit {α : Type} (status : Nat) : Task α := fun _ _ =>
  .finish status

/-- Go on as another program. -/
def become {α : Type} (p : Program) : Task α := fun _ _ =>
  p

/-- Spend some time. What comes then is not looked at before. -/
def pause (cost : Nat) : Task Unit := fun _ k =>
  .step fun kernel => (.pause cost (k ()), kernel)

/-- Wait until the kernel is ready, or until a time if one is given. -/
def await (ready : Kernel → Bool) (wake : Option Nat) : Task Unit := fun _ k =>
  .await ready wake (k ())

/-- Start a child on a task that ends it: the number of the child. -/
def fork (child : Task Nat) : Task Nat := fun c k =>
  .fork (child c .finish) k

/-- The program that a task is. -/
def program (c : Context) (x : Task Nat) : Program :=
  x c .finish

/-- How often something that may go on forever is tried. -/
def patience : Nat := 2 ^ 40

/-! ## Reading and writing -/

/-- The time that a transfer takes. -/
def transferCost : Nat := 2

/-- Write bytes to a descriptor, again and again where there is no room; at most `fuel` times. -/
def writeBytes (fd : Nat) : (fuel : Nat) → ByteArray → Task (Except OsError Unit)
  | 0, _ => return .error .brokenPipe
  | fuel + 1, bytes => do
    match ← call (Call.writeSome fd bytes) with
    | .done () =>
      pause transferCost
      return .ok ()
    | .refused e =>
      pause transferCost
      return .error e
    | .waits p rest =>
      await (fun k => k.isWritable p rest.size) none
      writeBytes fd fuel rest

/-- Write a text to a descriptor. -/
def write (fd : Nat) (text : String) : Task (Except OsError Unit) :=
  writeBytes fd patience (Octets.pack text)

/-- Read bytes from a descriptor as soon as there are any; none stand for the end. -/
def readBytes (fd : Nat) (amount : Call.Amount) : (fuel : Nat) → Task (Except OsError ByteArray)
  | 0 => return .ok .empty
  | fuel + 1 => do
    match ← call (Call.readSome fd amount) with
    | .done bytes =>
      pause transferCost
      return .ok bytes
    | .refused e => return .error e
    | .waits p _ =>
      await (fun k => k.isReadable p) none
      readBytes fd amount fuel

/-- Read at most so many bytes from a descriptor; the empty text stands for the end. -/
def readChunk (fd n : Nat) : Task (Except OsError String) := do
  return (← readBytes fd (Call.upTo n) patience).map Octets.unpack

/-- Read from a descriptor to its end; `soFar` was read already. -/
def readOn (fd : Nat) : (fuel : Nat) → (soFar : ByteArray) → Task (Except OsError ByteArray)
  | 0, soFar => return .ok soFar
  | fuel + 1, soFar => do
    match ← readBytes fd (Call.upTo (2 ^ 30)) patience with
    | .error e => return .error e
    | .ok bytes => if bytes.isEmpty then return .ok soFar else readOn fd fuel (soFar ++ bytes)

/-- Read all that is left under a descriptor. -/
def readAll (fd : Nat) : Task (Except OsError String) := do
  return (← readOn fd patience .empty).map Octets.unpack

/-- Whether a write to standard output was refused. -/
def isRefused : Task Bool :=
  call do return (← Call.self).refusal.isSome

/-- Read from a descriptor in pieces of at most `n` bytes and act on each, until the end, until the
action says no more or until the output is refused; at most `fuel` pieces. -/
def eachChunk (fd n : Nat) (act : String → Task Bool) : (fuel : Nat) → Task (Except OsError Unit)
  | 0 => return .ok ()
  | fuel + 1 => do
    match ← readChunk fd n with
    | .error e => return .error e
    | .ok chunk =>
      if chunk = "" then return .ok ()
      let more ← act chunk
      if !more || (← isRefused) then return .ok ()
      eachChunk fd n act fuel

/-- Read the rest of a line; `soFar` was read already. -/
def readLineOn (fd : Nat) : (fuel : Nat) → (soFar : ByteArray) → Task (Except OsError ByteArray)
  | 0, soFar => return .ok soFar
  | fuel + 1, soFar => do
    match ← readBytes fd Call.throughLine patience with
    | .error e => return .error e
    | .ok bytes =>
      let line := soFar ++ bytes
      if bytes.isEmpty || line.data.back? = some 10 then return .ok line
      else readLineOn fd fuel line

/-- Read one line with its newline; the empty text stands for the end. -/
def readLine (fd : Nat) : Task (Except OsError String) := do
  return (← readLineOn fd patience .empty).map Octets.unpack

/-- Write to standard output; a refusal is remembered. -/
def print (text : String) : Task Unit := do
  if text ≠ "" then
    match ← write 1 text with
    | .ok () => pure ()
    | .error e => call (Call.modifySelf fun p => { p with refusal := some e })

/-- Write a line to standard output. -/
def printLine (text : String) : Task Unit :=
  print (text ++ "\n")

/-- Write a line to standard error as it is. -/
def remark (text : String) : Task Unit := do
  let _ ← write 2 (showQuotations (← read).charset (text ++ "\n"))

/-- Write a line to standard error, after the name of who speaks. -/
def complain (text : String) : Task Unit := do
  let speaker := (← read).speaker
  remark (if speaker = "" then text else speaker ++ ": " ++ text)

/-! ## Files -/

/-- The file system and the current directory. -/
def place : Task (FileSystem × Inode) :=
  call do return (← Call.files, (← Call.self).directory)

/-- Change the files, unless the change is refused. -/
def change (f : FileSystem → Inode → Except OsError FileSystem) : Task (Except OsError Unit) :=
  call (Call.change f)

/-- What a stream is, as a node. -/
def nodeOf (files : FileSystem) : Stream → Node
  | .file i _ _ => files.node i
  | .pipe p => { content := .fifo p, mode := 0o600 }
  | .device d => { content := .device d }

/-- The node that a path names, if there is one; for the name of a descriptor it is what that is open
on. -/
def node? (path : String) : Task (Option Node) := do
  let (files, cwd) ← place
  match (files.resolve cwd path).toOption.map files.node with
  | some { content := .device (.descriptor fd), .. } =>
    return (← call (Call.file? fd)).map fun f => nodeOf files f.2.stream
  | found => return found

/-- The node that a path names, which may be a symbolic link, if there is one. -/
def link? (path : String) : Task (Option Node) := do
  let (files, cwd) ← place
  return (files.resolveLink cwd path).toOption.map files.node

/-- Wait for the other end of a pipe with a name. -/
def awaitOther (id : Nat) (mode : OpenMode) : Task Unit := do
  match ← call (Call.waitsFor? id) with
  | none => pure ()
  | some p =>
    match mode with
    | .readWrite => pure ()
    | .read => await (fun k => k.hasWriter p || (k.pipe p).size > 0) none
    | _ => await (fun k => k.hasReader p) none

/-- Put an open file under a descriptor that is free: the descriptor. -/
def hold (id : Nat) : Task Nat := do
  let table := (← call Call.self).descriptors
  let fd := (table.foldl (fun n d => max n d.1) 9) + 1
  call (Call.setDescriptors ((fd, id) :: table))
  return fd

/-- Open what a path names under a descriptor that is free: the descriptor. While a pipe with a name
waits for its other end, the process already holds its own. -/
def openPath (path : String) (mode : OpenMode) : Task (Except OsError Nat) := do
  match ← call (Call.openPath path mode) with
  | .error e => return .error e
  | .ok id =>
    let fd ← hold id
    awaitOther id mode
    return .ok fd

/-- Close a descriptor. -/
def close (fd : Nat) : Task Unit :=
  call (Call.modifySelf fun p => { p with descriptors := p.descriptors.filter (·.1 != fd) })

/-- The content of the file that a path names. -/
def slurp (path : String) : Task (Except OsError String) := do
  match ← openPath path .read with
  | .error e => return .error e
  | .ok fd =>
    let text ← readAll fd
    close fd
    return text

/-! ## Other processes -/

/-- The time. -/
def now : Task Nat :=
  call do return (← Call.files).now

/-- Wait for a time span. -/
def sleep (span : Nat) : Task Unit := do
  await (fun _ => false) (some ((← now) + span))

/-- Wait for the end of a child; at most `fuel` times. -/
def waitFor (pid : Nat) : (fuel : Nat) → Task Ending
  | 0 => return .exited 127
  | fuel + 1 => do
    match ← call (Call.reap? pid) with
    | some ending => return ending
    | none =>
      await (fun k => k.endedChildren.any (·.pid = pid)) none
      waitFor pid fuel

/-- Run a program as a child: how it ended. -/
def runChild (environment : Environment) (path name : String) (args : List String) :
    Task Ending := do
  let launch := (← read).launch
  let pid ← fork (become (launch environment path name args))
  waitFor pid patience

end Task

end CommandSpec
