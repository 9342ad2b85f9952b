import CommandSpec.Fault
import CommandSpec.Machine.FileSystem
import CommandSpec.Machine.Octets

/-!
# Open files, pipes and processes

The kernel holds the files, every open file, the pipes and the processes. A process has a table of
descriptors, each a number for an open file, and a current directory. Processes that inherit a
descriptor share the open file, so what one of them reads the next one does not see.

Who can still read or write a pipe is not counted but looked up: it is the live processes that hold
an open file on it. A process that has ended stays in the table until its parent asks how it ended.

What a process asks of the kernel is a `Call`, carried out on behalf of the process that is current.
-/

namespace CommandSpec

/-- What an open file reads from or writes to. -/
inductive Stream where
  /-- A file at a position; writing in append mode goes to its end. -/
  | file (i : Inode) (position : Nat) (append : Bool)
  | pipe (p : Nat)
  | device (d : Device)
  deriving Inhabited

/-- A stream with what may be done with it. -/
structure OpenFile where
  stream : Stream
  readable : Bool := false
  writable : Bool := false
  deriving Inhabited

/-- Bytes on their way from writers to readers. -/
structure Pipe where
  bytes : ByteArray := .empty
  /-- How many of the bytes were read. -/
  taken : Nat := 0
  /-- Whether somebody outside the machine reads all of it, so that it never fills up. -/
  kept : Bool := false
  deriving Inhabited

namespace Pipe

/-- How many bytes an ordinary pipe holds. -/
def capacity : Nat := 65536

/-- How many bytes are written at once or not at all. -/
def atom : Nat := 4096

/-- How many bytes wait to be read. -/
def size (p : Pipe) : Nat :=
  p.bytes.size - p.taken

/-- How many bytes can be written now. -/
def room (p : Pipe) : Nat :=
  capacity - p.size

/-- The pipe with more bytes in it. -/
def push (p : Pipe) (bytes : ByteArray) : Pipe :=
  { p with bytes := p.bytes ++ bytes }

/-- The first bytes, and the pipe without them. -/
def pop (p : Pipe) (n : Nat) : ByteArray × Pipe :=
  let taken := p.taken + n
  let front := p.bytes.extract p.taken taken
  if taken ≥ p.bytes.size then (front, { p with bytes := .empty, taken := 0 })
  else if taken > capacity then
    (front, { p with bytes := p.bytes.extract taken p.bytes.size, taken := 0 })
  else (front, { p with taken })

end Pipe

/-- How a process ended. -/
inductive Ending where
  | exited (status : Nat)
  | killed (signal : Nat)
  deriving DecidableEq, Repr, Inhabited

namespace Ending

/-- The number that tells of an ending: for a signal, 128 more than it. -/
def number : Ending → Nat
  | exited status => status
  | killed signal => 128 + signal

end Ending

/-- What the kernel knows of a process. -/
structure Process where
  pid : Nat
  parent : Nat
  descriptors : List (Nat × Nat) := []
  directory : Inode := FileSystem.root
  /-- The permissions that its new files do not get. -/
  mask : Nat := 0o022
  /-- The signals that it ignores. -/
  ignored : List Nat := []
  /-- The signals that it acts on itself. -/
  caught : List Nat := []
  /-- The caught signals that it did not act on yet. -/
  arrived : List Nat := []
  stopped : Bool := false
  /-- How it ended, if it did. -/
  ending : Option Ending := none
  /-- Why a write to its standard output was refused last. -/
  refusal : Option OsError := none
  /-- What it has read of its standard input and not used yet. -/
  ahead : String := ""
  /-- How many bytes its files may have at most, if that is limited. -/
  sizeLimit : Option Nat := none
  /-- How many descriptors it may have. -/
  descriptorLimit : Nat := 1048576
  /-- How much it leaves to others. -/
  niceness : Int := 0
  deriving Inhabited

namespace Process

/-- Whether the process has not ended. -/
def isLive (p : Process) : Bool :=
  p.ending.isNone

/-- Whether a table of descriptors has room for one more. -/
def hasRoom (p : Process) (table : List (Nat × Nat)) : Bool :=
  p.descriptorLimit > table.length || (List.range p.descriptorLimit).any fun fd => (table.lookup fd).isNone

/-- A process that another one starts: what it inherits from it. -/
def fork (p : Process) (pid : Nat) : Process :=
  { p with pid, parent := p.pid, arrived := [], refusal := none, ahead := "" }

end Process

/-- The files, the open files, the pipes and the processes. -/
structure Kernel where
  files : FileSystem
  opened : Array OpenFile := #[]
  pipes : Array Pipe := #[]
  processes : List Process := []
  /-- The process that calls. -/
  current : Nat := 0
  /-- The number of the next process. -/
  next : Nat := 4242
  /-- What the next random bytes are made from. -/
  seed : Nat := 88172645463325252
  deriving Inhabited

/-- How a file is opened. -/
inductive OpenMode where
  | read
  | write
  | append
  | readWrite
  deriving DecidableEq, Repr

namespace OpenMode

/-- Whether the file can be read. -/
def reads : OpenMode → Bool
  | read => true
  | readWrite => true
  | _ => false

/-- Whether the file can be written. -/
def writes : OpenMode → Bool
  | read => false
  | _ => true

end OpenMode

/-- The signal that kills whatever a process does against it. -/
def killSignal : Nat := 9

/-- The signal for a write that nobody can read. -/
def pipeSignal : Nat := 13

/-- The signal that asks a process to end. -/
def endSignal : Nat := 15

/-- The signal for a write beyond the size that a file may have. -/
def sizeSignal : Nat := 25

/-- The signal for the end of a child. -/
def childSignal : Nat := 17

/-- The signal that lets a stopped process go on. -/
def continueSignal : Nat := 18

/-- The signals that stop a process. -/
def stopSignals : List Nat :=
  [19, 20, 21, 22]

/-- The other signals that do nothing to a process that has not asked for them. -/
def harmlessSignals : List Nat :=
  [17, 18, 23, 28]

namespace Kernel

variable (k : Kernel)

/-- The process with a number, dead or alive. -/
def process? (pid : Nat) : Option Process :=
  k.processes.find? (·.pid = pid)

/-- The process that calls. -/
def self : Process :=
  (k.process? k.current).getD default

/-- Whether a process has not ended. -/
def isLive (pid : Nat) : Bool :=
  (k.process? pid).any Process.isLive

/-- The kernel with a process changed. -/
def modifyProcess (pid : Nat) (f : Process → Process) : Kernel :=
  { k with processes := k.processes.map fun p => if p.pid = pid then f p else p }

/-- The open file with a number. -/
def openFile (id : Nat) : OpenFile :=
  k.opened[id]?.getD default

/-- The pipe with a number. -/
def pipe (p : Nat) : Pipe :=
  k.pipes[p]?.getD {}

/-- Whether a live process can use a pipe in a certain way. -/
def someHolds (p : Nat) (use : OpenFile → Bool) : Bool :=
  k.processes.any fun process => process.descriptors.any fun (_, id) =>
    let file := k.openFile id
    match file.stream with
    | .pipe q => q = p && use file
    | _ => false

/-- Whether somebody can read what is written to a pipe. -/
def hasReader (p : Nat) : Bool :=
  (k.pipe p).kept || k.someHolds p OpenFile.readable

/-- Whether somebody can still write to a pipe. -/
def hasWriter (p : Nat) : Bool :=
  k.someHolds p OpenFile.writable

/-- Whether a read of a pipe need not wait. -/
def isReadable (p : Nat) : Bool :=
  (k.pipe p).size > 0 || !k.hasWriter p

/-- Whether a write of some bytes to a pipe need not wait. -/
def isWritable (p n : Nat) : Bool :=
  (k.pipe p).kept || (k.pipe p).room ≥ min n Pipe.atom || !k.hasReader p

/-! ## Signals and endings -/

/-- The kernel after a process has ended. Its children lose their parent, and those of them that have
ended are forgotten, as it is itself when its parent is not there to ask. -/
def conclude (pid : Nat) (ending : Ending) : Kernel :=
  match (k.process? pid).filter Process.isLive with
  | none => k
  | some dead =>
    let parentLives := k.isLive dead.parent
    let processes := k.processes.filterMap fun p =>
      if p.pid = pid then
        if parentLives then some { p with ending := some ending, descriptors := [], stopped := false }
        else none
      else if p.parent = pid then
        if p.isLive then some { p with parent := 1 } else none
      else if p.pid = dead.parent && p.caught.contains childSignal then
        some { p with arrived := p.arrived ++ [childSignal] }
      else some p
    { k with processes }

/-- The kernel after a signal was sent to a process. -/
def send (pid signal : Nat) : Kernel :=
  match k.process? pid with
  | none => k
  | some p =>
    if signal = 0 || !p.isLive then k
    else
      let k := if signal = continueSignal then
        k.modifyProcess pid fun p => { p with stopped := false } else k
      let mayRefuse := signal ≠ killSignal && signal ≠ 19
      if mayRefuse && p.ignored.contains signal then k
      else if mayRefuse && p.caught.contains signal then
        k.modifyProcess pid fun p =>
          if p.arrived.contains signal then p else { p with arrived := p.arrived ++ [signal] }
      else if stopSignals.contains signal then k.modifyProcess pid fun p => { p with stopped := true }
      else if harmlessSignals.contains signal then k
      else k.conclude pid (.killed signal)

/-- A process and all that it started, what those started and so on; at most `fuel` generations. -/
def family : (fuel : Nat) → (pid : Nat) → List Nat
  | 0, pid => [pid]
  | fuel + 1, pid => pid :: (k.processes.filter (·.parent = pid)).flatMap fun p => family fuel p.pid

/-- The processes that were started by the one that calls and have ended. -/
def endedChildren : List Process :=
  k.processes.filter fun p => p.parent = k.current && !p.isLive

/-- The kernel with one more process, which inherits from the one that calls, and its number. -/
def fork : Nat × Kernel :=
  (k.next, { k with
    processes := k.processes ++ [k.self.fork k.next], next := k.next + 1 })

/-- The kernel with another process as the one that calls, at a time. -/
def switch (pid time : Nat) : Kernel :=
  let mask := ((k.process? pid).map Process.mask).getD k.files.mask
  { k with current := pid, files := { k.files with now := time, mask } }

end Kernel

/-- What a process asks of the kernel. -/
abbrev Call := StateM Kernel

namespace Call

/-- The process that calls. -/
def self : Call Process :=
  return (← get).self

/-- Change what the kernel knows of the process that calls. -/
def modifySelf (f : Process → Process) : Call Unit :=
  modify fun k => k.modifyProcess k.current f

/-- The file system. -/
def files : Call FileSystem :=
  return (← get).files

/-- Change the files, unless the change is refused. -/
def change (f : FileSystem → Inode → Except OsError FileSystem) : Call (Except OsError Unit) :=
  modifyGet fun k =>
    match f k.files k.self.directory with
    | .error e => (.error e, k)
    | .ok files => (.ok (), { k with files })

/-! ## Open files -/

/-- The open file under a descriptor, with its number. -/
def file? (fd : Nat) : Call (Option (Nat × OpenFile)) := do
  let k ← get
  return (k.self.descriptors.lookup fd).map fun id => (id, k.openFile id)

/-- A new open file, and its number. -/
def openNew (file : OpenFile) : Call Nat :=
  modifyGet fun k => (k.opened.size, { k with opened := k.opened.push file })

/-- A new pipe, and its number. -/
def newPipe (pipe : Pipe) : Call Nat :=
  modifyGet fun k => (k.pipes.size, { k with pipes := k.pipes.push pipe })

/-- Change the position of an open file. -/
def move (id position : Nat) : Call Unit :=
  modify fun k => { k with opened := k.opened.modify id fun f => match f.stream with
    | .file i _ append => { f with stream := .file i position append }
    | _ => f }

/-- Open what a node is. The descriptor of a process is opened anew if it is a file. -/
def openNode (i : Inode) (mode : OpenMode) : Call (Except OsError Nat) := do
  let file (stream : Stream) : Call (Except OsError Nat) :=
    return .ok (← openNew { stream, readable := mode.reads, writable := mode.writes })
  let start (i : Inode) : Call (Except OsError Nat) := do
    if mode = .write then
      modify fun k => if (k.files.node i).isDirectory then k
        else { k with files := k.files.store i (.file .empty) }
    file (.file i 0 (mode = .append))
  match ((← files).node i).content with
  | .file _ => start i
  | .directory _ => if mode.writes then return .error .isDirectory else file (.file i 0 false)
  | .fifo p => file (.pipe p)
  | .device (.descriptor fd) =>
    match ← file? fd with
    | none => return .error .noEntry
    | some (_, f) =>
      match f.stream with
      | .file i _ _ => start i
      | stream => file stream
  | .device .terminal => return .error .noDevice
  | .device d => file (.device d)
  | _ => file (.device .null)

/-- Open what a path names; a file that is not there is made unless it is only read. -/
def openPath (path : String) (mode : OpenMode) : Call (Except OsError Nat) := do
  let k ← get
  let cwd := k.self.directory
  if !k.self.hasRoom k.self.descriptors then return .error .tooManyFiles
  if mode = .read then
    match k.files.resolve cwd path with
    | .error e => return .error e
    | .ok i => openNode i mode
  else
    match k.files.fileFor FileSystem.maxLinks cwd path with
    | .error e => return .error e
    | .ok (i, files) =>
      modify fun k => { k with files }
      openNode i mode

/-- The number of the pipe that an open file has to wait for before it is open: one with a name whose
other end nobody holds. -/
def waitsFor? (id : Nat) : Call (Option Nat) := do
  let file := (← get).openFile id
  return match file.stream with
    | .pipe p => some p
    | _ => none

/-! ## Reading and writing -/

/-- The content of a file with bytes written over it at a position; a gap is filled with NULs. -/
def overwrite (content : ByteArray) (position : Nat) (bytes : ByteArray) : ByteArray :=
  if position = content.size then content ++ bytes
  else
    let gap : ByteArray := ⟨Array.replicate (position - content.size) 0⟩
    content.extract 0 position ++ gap ++ bytes
      ++ content.extract (position + bytes.size) content.size

/-- What came of a transfer: it is done, or it has to wait for a pipe. -/
inductive Transfer (α : Type) where
  | done (a : α)
  | waits (pipe : Nat) (rest : ByteArray)
  | refused (e : OsError)

/-- Write bytes over a file, and tell where they ended. -/
def writeFile (i : Inode) (position : Nat) (append : Bool) (bytes : ByteArray) : Call Nat :=
  modifyGet fun k =>
    let size := (k.files.node i).bytes.size
    let position := if append then size else position
    let now := k.files.now
    let files := k.files.modify i fun n => match n with
      | { content := .file content, mode, user, group, accessed, .. } =>
        { content := .file (overwrite content position bytes), mode, user, group, accessed
          modified := now, changed := now }
      | n => n
    (position + bytes.size, { k with files })

/-- Write to a descriptor as much as goes at once. A write that nobody can read is a signal for who
writes. -/
def writeSome (fd : Nat) (bytes : ByteArray) : Call (Transfer Unit) := do
  match ← file? fd with
  | none => return .refused .badDescriptor
  | some (id, f) =>
    if !f.writable then return .refused .badDescriptor
    match f.stream with
    | .file i position append =>
      let k ← get
      let start := if append then (k.files.node i).bytes.size else position
      let room := (k.self.sizeLimit.map fun limit => limit - start).getD bytes.size
      if bytes.size ≤ room then
        move id (← writeFile i position append bytes)
        return .done ()
      else
        if room > 0 then move id (← writeFile i position append (bytes.extract 0 room))
        modify fun k => k.send k.current sizeSignal
        return .refused .tooLarge
    | .device .full => return .refused .noSpace
    | .device _ => return .done ()
    | .pipe p =>
      let k ← get
      if !k.hasReader p then
        modify fun k => k.send k.current pipeSignal
        return .refused .brokenPipe
      let pipe := k.pipe p
      let put (bytes : ByteArray) : Call Unit :=
        modify fun k => { k with pipes := k.pipes.modify p (·.push bytes) }
      if pipe.kept || bytes.size ≤ pipe.room then
        put bytes
        return .done ()
      else if bytes.size ≤ Pipe.atom then return .waits p bytes
      else
        let room := pipe.room
        put (bytes.extract 0 room)
        return .waits p (bytes.extract room bytes.size)

/-- How much of some bytes a read takes; `bytes` are those from `start` on. -/
abbrev Amount := (bytes : ByteArray) → (start : Nat) → Nat

/-- At most `n` bytes. -/
def upTo (n : Nat) : Amount := fun bytes start =>
  min n (bytes.size - start)

/-- How many bytes there are up to a byte, which is counted too, from a place on. -/
def lengthThrough (byte : UInt8) (bytes : ByteArray) (i : Nat) : Nat :=
  if h : i < bytes.size then
    if bytes[i] = byte then 1 else lengthThrough byte bytes (i + 1) + 1
  else 0
termination_by bytes.size - i

/-- The bytes up to the end of a line. -/
def throughLine : Amount :=
  lengthThrough 10

/-- So many bytes without a plan, and what the next ones are made from. -/
def unforeseen (n seed : Nat) : ByteArray × Nat :=
  n.fold (fun _ _ (bytes, seed) =>
    let seed := (seed * 6364136223846793005 + 1442695040888963407) % 2 ^ 64
    (bytes.push (seed / 2 ^ 33).toUInt8, seed)) (ByteArray.empty, seed)

/-- Read from a descriptor as much as `amount` takes of what is there; nothing comes at the end. -/
def readSome (fd : Nat) (amount : Amount) : Call (Transfer ByteArray) := do
  match ← file? fd with
  | none => return .refused .badDescriptor
  | some (id, f) =>
    if !f.readable then return .refused .badDescriptor
    match f.stream with
    | .file i position _ =>
      let node := (← files).node i
      if node.isDirectory then return .refused .isDirectory
      let bytes := node.bytes
      let n := if position < bytes.size then amount bytes position else 0
      move id (position + n)
      modify fun k =>
        let now := k.files.now
        { k with files := k.files.modify i fun n => n.noteRead now }
      return .done (bytes.extract position (position + n))
    | .device .null => return .done .empty
    | .device .random =>
      let n := amount ⟨Array.replicate Pipe.capacity 0⟩ 0
      return .done (← modifyGet fun k =>
        let (bytes, seed) := unforeseen n k.seed
        (bytes, { k with seed }))
    | .device _ =>
      let bytes : ByteArray := ⟨Array.replicate Pipe.capacity 0⟩
      return .done (bytes.extract 0 (amount bytes 0))
    | .pipe p =>
      let k ← get
      if !k.isReadable p then return .waits p .empty
      let pipe := k.pipe p
      let (bytes, pipe) := pipe.pop (amount pipe.bytes pipe.taken)
      modify fun k => { k with pipes := k.pipes.modify p fun _ => pipe }
      return .done bytes

/-- Move the position of a file back, if the descriptor is that of a file. -/
def seekBack (fd n : Nat) : Call Unit := do
  match ← file? fd with
  | some (id, { stream := .file _ position _, .. }) => move id (position - n)
  | _ => pure ()

/-! ## Processes -/

/-- Set the table of descriptors. -/
def setDescriptors (descriptors : List (Nat × Nat)) : Call Unit :=
  modifySelf fun p => { p with descriptors }

/-- A descriptor table with a descriptor set. -/
def redirectTo (table : List (Nat × Nat)) (fd id : Nat) : List (Nat × Nat) :=
  (fd, id) :: table.filter (·.1 != fd)

/-- Send a signal to a process: whether it is there. -/
def kill (pid signal : Nat) : Call Bool := do
  if pid = 1 then return true
  if ((← get).process? pid).isNone then return false
  modify fun k => k.send pid signal
  return true

/-- The ending of a child that has ended; the child is forgotten. -/
def reap? (pid : Nat) : Call (Option Ending) := do
  match (← get).endedChildren.find? (·.pid = pid) with
  | some { ending := some ending, .. } =>
    modify fun k => { k with processes := k.processes.filter (·.pid != pid) }
    return some ending
  | _ => return none

end Call

end CommandSpec
