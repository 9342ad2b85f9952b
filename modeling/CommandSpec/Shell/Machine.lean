import CommandSpec.Machine.Schedule
import CommandSpec.Session.Files
import CommandSpec.Shell.Launch

/-!
# The machine that commands are run on

A machine has a kernel with files and processes, an environment and an interpreter of commands, which
is `sh -c` unless another one is chosen. Specs are read by a process of the machine, whose current
directory is that of the machine, and every command is run by a child of that process. A command is
over when its process has ended, nobody can write to its output any more and what is left of its input
fits a pipe that nobody reads; processes that it left behind go on while later commands run.
-/

namespace CommandSpec

open Shell

/-- A kernel, the processes that were left behind, and an interpreter of commands. -/
structure Machine where
  kernel : Kernel
  /-- The programs that processes still run. -/
  threads : List Thread := []
  environment : Environment :=
    [("LC_ALL", "C"), ("PATH", Located.standardPath), ("HOME", "/root")]
  /-- The program that interprets commands. -/
  shell : String := "sh"
  /-- The argument before the command. -/
  flag : String := "-c"
  deriving Inhabited

namespace Machine

/-- The process that reads specs and starts commands. -/
def reader : Nat := 4000

/-- The machine's directory. -/
def directory (m : Machine) : Inode :=
  ((m.kernel.process? reader).map Process.directory).getD FileSystem.root

/-- Ask something of the kernel as the process that reads specs. -/
def call {α : Type} (x : Call α) (m : Machine) : α × Machine :=
  let (a, kernel) := x.run (m.kernel.switch reader m.kernel.files.now)
  (a, { m with kernel })

/-- Whether a text holds a NUL. -/
def hasNul (s : String) : Bool :=
  s.toList.contains (Char.ofNat 0)

/-! ## Running commands -/

/-- The path of a program, if it leads to one. -/
def programAt (m : Machine) (path : String) : Except OsError String := do
  let files := m.kernel.files
  let node := files.node (← files.resolve m.directory path)
  if !node.isFile || !node.isExecutable then throw .accessDenied
  match node.content with
  | .file bytes =>
    match Located.interpreter? (Octets.unpack (bytes.extract 0 256)) with
    | none => throw .notExecutable
    | some _ =>
      match Located.ofPath files m.directory path with
      | .program path => return path
      | .denied => throw .accessDenied
      | .missing => throw .noEntry
  | _ => return path

/-- The first program that a name leads to in some directories. A directory where the name is
refused is remembered, and others are tried. -/
def searchProgram (m : Machine) (name : String) : List String → Except OsError String
  | [] => .error .noEntry
  | d :: rest =>
    match m.programAt (d ++ "/" ++ name) with
    | .ok program => .ok program
    | .error .nameTooLong => .error .nameTooLong
    | .error e =>
      match searchProgram m name rest with
      | .error .noEntry => .error (if e = .accessDenied then .accessDenied else .noEntry)
      | found => found

/-- The program that a name stands for: a path if it holds a slash, else it is looked for along
`PATH`. -/
def findProgram (m : Machine) (name : String) : Except OsError String :=
  if name.toList.contains '/' then m.programAt name
  else if name = "" then .error .noEntry
  else
    m.searchProgram name (((m.environment.lookup "PATH").getD Located.standardPath).splitOn ":")

/-- A command that could not be started. -/
def cannotStart (m : Machine) (command : String) (fault : Fault) : RunError :=
  { kind := .spawn
    message := "failed to execute '" ++ m.shell ++ "': " ++ fault.text
    command := some command }

/-- A child with two pipes for its output, which are read to their end outside the machine: its
number and those of the pipes, the one for its input first. -/
def startChild (input : String) : Call (Nat × Nat × Nat × Nat) := do
  let stdin ← Call.newPipe { bytes := Octets.pack input }
  let stdout ← Call.newPipe { kept := true }
  let stderr ← Call.newPipe { kept := true }
  let reading ← Call.openNew { stream := .pipe stdin, readable := true }
  let writing ← Call.openNew { stream := .pipe stdout, writable := true }
  let complaining ← Call.openNew { stream := .pipe stderr, writable := true }
  let pid ← modifyGet fun k => k.fork
  modify fun k => k.modifyProcess pid fun p =>
    { p with descriptors := [(0, reading), (1, writing), (2, complaining)] }
  return (pid, stdin, stdout, stderr)

/-- Take all that is in a pipe. -/
def drain (p : Nat) : Call String :=
  modifyGet fun k =>
    let pipe := k.pipe p
    (Octets.unpack (pipe.bytes.extract pipe.taken pipe.bytes.size),
      { k with pipes := k.pipes.modify p fun _ => {} })

/-- The time between two commands. -/
def restingTime : Nat := 1000

/-- Run a program on some bytes: what it did. -/
def runProgram (path : String) (args : List String) (input : List UInt8) (m : Machine) :
    Output × Machine :=
  let ((pid, stdin, stdout, stderr), m) := m.call (startChild (Octets.ofBytes input))
  let program := launch Task.patience m.environment path (Octets.ofText m.shell) args
  let isFed (k : Kernel) : Bool := (k.pipe stdin).size ≤ Pipe.capacity || !k.hasReader stdin
  let isOver (k : Kernel) : Bool :=
    !k.isLive pid && !k.hasWriter stdout && !k.hasWriter stderr && isFed k
  let (threads, kernel) := Thread.runAll isOver Task.patience
    (m.threads ++ [⟨pid, m.kernel.files.now + restingTime, program⟩]) m.kernel
  let collect : Call Output := do
    let ending ← Call.reap? pid
    let output ← drain stdout
    let complaints ← drain stderr
    return ⟨(ending.getD (.exited 0)).number, Octets.toBytes output, Octets.toBytes complaints⟩
  { m with threads, kernel }.call collect

/-- Run a command on bytes of standard input. -/
def process (command : String) (input : List UInt8) : EStateM RunError Machine Output := fun m =>
  if [m.shell, m.flag, command].any hasNul then .error (m.cannotStart command .nulInArgument) m
  else
    match m.findProgram (Octets.ofText m.shell) with
    | .error e => .error (m.cannotStart command e.fault) m
    | .ok path =>
      let (output, m) := m.runProgram path [Octets.ofText m.flag, Octets.ofText command] input
      .ok output m

/-- Run a command on lines of standard input. -/
def execute (command : String) (stdin : List String) : EStateM RunError Machine Execution :=
  executeProcess process command stdin

/-! ## Files and directories -/

/-- The node that a path names. -/
def resolve (m : Machine) (path : String) : Except Fault Inode :=
  if hasNul path then .error .nulInPath
  else (m.kernel.files.resolve m.directory (Octets.ofText path)).mapError OsError.fault

/-- The machine in another directory. -/
def moved (m : Machine) (directory : Inode) : Machine :=
  { m with kernel := m.kernel.modifyProcess reader fun p => { p with directory } }

/-- The current directory as an absolute path. -/
def currentDirectory : EStateM Fault Machine String := fun m =>
  match m.kernel.files.absolutePath m.directory with
  | .ok path => .ok (Octets.toText path) m
  | .error e => .error e.fault m

/-- Make another directory current. -/
def enter (path : String) : EStateM Fault Machine Unit := fun m =>
  match m.resolve path with
  | .error fault => .error fault m
  | .ok i =>
    if (m.kernel.files.node i).isDirectory then .ok () (m.moved i)
    else .error OsError.notDirectory.fault m

/-- How many bytes of a spec are read at once. -/
def blockSize : Nat := 8192

/-- Read a block under a descriptor. -/
def readBlock (fd : Nat) : EStateM Fault Machine (List UInt8) := fun m =>
  match m.call (Call.readSome fd (Call.upTo blockSize)) with
  | (.done bytes, m) => .ok bytes.toList m
  | (.waits _ _, m) => .ok [] m
  | (.refused e, m) => .error e.fault m

/-- Open a file under a free descriptor. -/
def openFile (path : String) : Call (Except OsError Nat) := do
  match ← Call.openPath path .read with
  | .error e => return .error e
  | .ok id =>
    let table := (← Call.self).descriptors
    let fd := (table.foldl (fun n d => max n d.1) 2) + 1
    Call.setDescriptors ((fd, id) :: table)
    return .ok fd

/-- Open a file to read a spec from it, block by block. A directory can be opened but not read. -/
def openSpec (path : String) : EStateM Fault Machine (Source Machine) := fun m =>
  if hasNul path then .error .nulInPath m
  else
    match m.call (openFile (Octets.ofText path)) with
    | (.error e, m) => .error e.fault m
    | (.ok fd, m) => .ok { refills := Task.patience, refill := readBlock fd } m

instance : Host Machine where
  execute := execute
  currentDirectory := currentDirectory
  enter := enter
  openSpec := openSpec

/-! ## The system's own files -/

/-- The programs of the system, with the utilities that they are. -/
def systemPrograms : List (String × String) :=
  ((Utility.catalog.map Prod.fst).map fun n => (n, n)) ++ [("dash", "sh"), ("bash", "sh")]

/-- The devices of the system. -/
def systemDevices : List (String × Device) :=
  [("null", .null), ("zero", .zero), ("full", .full), ("random", .random), ("urandom", .random),
    ("tty", .terminal), ("stdin", .descriptor 0), ("stdout", .descriptor 1), ("stderr", .descriptor 2)]
    ++ (List.range 10).map fun fd => ("fd/" ++ toString fd, .descriptor fd)

/-- The directories of the system. -/
def systemDirectories : List String :=
  ["/boot", "/dev/mqueue", "/dev/pts", "/dev/shm", "/etc", "/home", "/media", "/mnt", "/opt", "/proc",
    "/root", "/run/lock", "/srv", "/sys", "/tmp", "/usr/bin", "/usr/games", "/usr/include", "/usr/lib",
    "/usr/lib64", "/usr/libexec", "/usr/local/bin", "/usr/local/lib", "/usr/local/sbin", "/usr/sbin",
    "/usr/share", "/usr/src", "/var/backups", "/var/cache", "/var/lib", "/var/local", "/var/log",
    "/var/mail", "/var/opt", "/var/spool", "/var/tmp"]

/-- The symbolic links of the system. -/
def systemLinks : List (String × String) :=
  [("/bin", "usr/bin"), ("/lib", "usr/lib"), ("/lib64", "usr/lib64"), ("/sbin", "usr/sbin"),
    ("/usr/bin/sh", "dash"), ("/var/lock", "/run/lock"), ("/var/run", "/run")]

/-- The permissions of directories that are not the usual ones. -/
def systemModes : List (String × Nat) :=
  [("/dev/mqueue", 0o1777), ("/dev/shm", 0o1777), ("/proc", 0o555), ("/root", 0o700), ("/run/lock", 0o1777),
    ("/sys", 0o555), ("/tmp", 0o1777), ("/var/local", 0o2775), ("/var/mail", 0o2775), ("/var/tmp", 0o1777)]

/-- The files of the system that hold text. -/
def systemTexts : List (String × String) :=
  [("/etc/passwd", Account.userFile), ("/etc/group", Account.groupFile)]

/-- The files of the system. -/
def systemFiles : FileSystem :=
  let root := FileSystem.root
  let files := systemDirectories.foldl (fun fs d => (fs.putDirectory root d).1) FileSystem.empty
  let files := systemModes.foldl (fun fs (path, mode) =>
    ((fs.resolve root path).toOption.map fun i => fs.modify i fun n => { n with mode }).getD fs) files
  let files := systemLinks.foldl (fun fs (path, target) => fs.put root path (.symbolic target) 0o777) files
  let files := systemDevices.foldl
    (fun fs (name, device) => fs.put root ("/dev/" ++ name) (.device device) 0o666) files
  let files := systemTexts.foldl (fun fs (path, text) => fs.put root path (.file (Octets.pack text)) 0o644) files
  systemPrograms.foldl (fun fs (name, program) =>
    fs.put root ("/usr/bin/" ++ name) (.program program) 0o755) files

/-- The time when a machine starts. -/
def startTime : Nat := 1750000000000000

/-- A machine with the system's programs and devices. -/
def standard : Machine :=
  { kernel :=
      { files := { systemFiles with now := startTime }, processes := [{ pid := reader, parent := 1 }]
        current := reader } }

/-- The machine with a text as the standard input of the process that reads specs. -/
def withInput (m : Machine) (input : List UInt8) : Machine :=
  let give : Call Unit := do
    let pipe ← Call.newPipe { bytes := ⟨input.toArray⟩ }
    let id ← Call.openNew { stream := .pipe pipe, readable := true }
    Call.setDescriptors [(0, id)]
  (m.call give).2

/-- The machine with other files. -/
def withFiles (m : Machine) (files : FileSystem) : Machine :=
  { m with kernel := { m.kernel with files } }

/-- The machine with a file under a path. -/
def withFile (m : Machine) (path : String) (content : List UInt8) : Machine :=
  m.withFiles (m.kernel.files.put m.directory (Octets.ofText path) (.file ⟨content.toArray⟩) 0o666)

/-- The machine with a directory under a path. -/
def withDirectory (m : Machine) (path : String) : Machine :=
  m.withFiles (m.kernel.files.putDirectory m.directory (Octets.ofText path)).1

/-- The machine in a directory, which is made if it is not there. -/
def inside (m : Machine) (path : String) : Machine :=
  let (files, directory) := m.kernel.files.putDirectory m.directory (Octets.ofText path)
  (m.withFiles files).moved directory

end Machine

end CommandSpec
