import CommandSpec.Machine.Task
import CommandSpec.Shell.Pattern
import CommandSpec.Shell.Reader
import CommandSpec.Shell.Signal

/-!
# The state of a shell

A shell has variables, positional arguments, functions, traps and jobs. What a shell does is told
what goes on after it, so that a part of a script is a part of a `Program`. It may stop early: it may
leave the shell, a loop or a function.
-/

namespace CommandSpec.Shell

/-- A variable of a shell. -/
structure Variable where
  /-- Its value, if it is set: a variable that is not may be marked too. -/
  value? : Option String
  exported : Bool := false
  readOnly : Bool := false
  deriving Repr, Inhabited

/-- The options that `set` changes. -/
structure Settings where
  /-- Leave the shell when a command fails (`-e`). -/
  exitOnError : Bool := false
  /-- Refuse parameters that are unset (`-u`). -/
  refuseUnset : Bool := false
  /-- Do not match file names (`-f`). -/
  keepPatterns : Bool := false
  /-- Show every simple command before it is run (`-x`). -/
  traced : Bool := false
  /-- Show the lines of the script as they are read (`-v`). -/
  verbose : Bool := false
  /-- Give all variables that are set to programs (`-a`). -/
  exportAll : Bool := false
  /-- Do not overwrite a file by a redirection (`-C`). -/
  keepFiles : Bool := false
  /-- Read commands but do not run them (`-n`). -/
  readOnly : Bool := false
  /-- The letters of the options that are on and change nothing. -/
  idle : List Char := []
  deriving Repr, Inhabited

namespace Settings

/-- Whether the option with a letter is on. -/
def has (o : Settings) (letter : Char) : Bool :=
  match letter with
  | 'e' => o.exitOnError
  | 'u' => o.refuseUnset
  | 'f' => o.keepPatterns
  | 'x' => o.traced
  | 'v' => o.verbose
  | 'a' => o.exportAll
  | 'C' => o.keepFiles
  | 'n' => o.readOnly
  | _ => o.idle.contains letter

/-- The letters of the options that are on. -/
def letters (o : Settings) : String :=
  .ofList ("pubaCEVvxsnmiIfe".toList.filter o.has)

end Settings

/-- Why a shell stops what it does. -/
inductive Stop where
  /-- Leave the shell. -/
  | exit (status : Nat)
  /-- Leave the shell after a complaint, unless a command that is not special complained. -/
  | fault (status : Nat)
  /-- Leave this many loops. -/
  | leave (levels : Nat)
  /-- Go on with the next turn of the loop this many levels up. -/
  | again (levels : Nat)
  /-- Leave the function. -/
  | back (status : Nat)
  deriving DecidableEq, Repr

/-- The processes of a pipeline that a shell started. -/
structure Job where
  number : Nat
  pids : List Nat
  /-- Whether a command waited for its end. -/
  waited : Bool := false
  deriving Repr, Inhabited

namespace Job

/-- The process whose ending is that of the job. -/
def leader (j : Job) : Nat :=
  j.pids.getLast?.getD 0

/-- How the job ended, if all its processes have. -/
def ending? (j : Job) (endings : List (Nat × Ending)) : Option Ending :=
  if j.pids.all fun p => (endings.lookup p).isSome then endings.lookup j.leader else none

end Job

/-- A shell. -/
structure State where
  /-- What the shell calls itself, `$0`. -/
  name : String := "sh"
  arguments : List String := []
  bindings : List (String × Variable) := []
  functions : List (String × Command) := []
  aliases : List (String × String) := []
  settings : Settings := {}
  /-- The actions set for signals; signal 0 is the end of the shell. -/
  traps : List (Nat × String) := []
  /-- The signals that were ignored when the shell began, which stay ignored. -/
  deaf : List Nat := []
  /-- The exit status of the last command, `$?`. -/
  status : Nat := 0
  /-- While an action for a signal is carried out, the status before it. -/
  outerStatus : Option Nat := none
  /-- The status of the last script whose output a word took, in the current command. -/
  substituted : Option Nat := none
  /-- The number of the shell's process, `$$`. -/
  pid : Nat := 0
  /-- The last process that was started in the background, `$!`. -/
  background : Option Nat := none
  /-- The jobs in the background, the latest first. -/
  jobs : List Job := []
  /-- How children ended. -/
  endings : List (Nat × Ending) := []
  /-- The line of the current command. -/
  line : Nat := 1
  /-- The line up to which the script has been read. -/
  readTo : Nat := 1
  /-- The command that the shell itself carries out and that complaints name. -/
  command : String := ""
  /-- Whether the current command stands in a place that is tested, where a failure is no reason to
  leave the shell. -/
  tested : Bool := false
  /-- How many loops are going on in the current function. -/
  loops : Nat := 0
  /-- In a function, the variables that are local to it with their outer values, the latest first. -/
  locals? : Option (List (String × Option Variable)) := none
  /-- In a function that has its own options, those from before. -/
  localSettings : Option Settings := none
  /-- Where `getopts` goes on: the argument to look at next, counted from 1, and a place in the one
  before it if that is not done. -/
  optionPlace : Nat × Nat := (1, 0)
  /-- The programs that were found along `PATH`, the first one first. -/
  tracked : List (String × String) := []
  /-- The limits that were set: for a letter, the one that holds and the hard one. -/
  limits : List (Char × (Option Nat × Option Nat)) := []
  /-- The path of the current directory, as it was reached. -/
  directory : String := ""
  /-- The program that a path stands for, run under a name on arguments. -/
  launch : Environment → (path name : String) → (args : List String) → Program :=
    fun _ _ _ _ => .finish 127
  deriving Inhabited

/-- What a shell does. -/
def Eval (α : Type) : Type :=
  State → (Except Stop α → State → Program) → Program

namespace Eval

instance : Monad Eval where
  pure a := fun s k => k (.ok a) s
  bind x f := fun s k => x s fun r s => match r with
    | .ok a => f a s k
    | .error stop => k (.error stop) s

instance : MonadStateOf State Eval where
  get := fun s k => k (.ok s) s
  set s := fun _ k => k (.ok ()) s
  modifyGet f := fun s k =>
    let (a, s) := f s
    k (.ok a) s

instance : MonadExceptOf Stop Eval where
  throw stop := fun s k => k (.error stop) s
  tryCatch x handle := fun s k => x s fun r s => match r with
    | .ok a => k (.ok a) s
    | .error stop => handle stop s k

/-- Do something and take the reason for which it stops, if it does, as an answer. -/
def attempt {α : Type} (x : Eval α) : Eval (Except Stop α) := fun s k =>
  x s fun r s => k (.ok r) s

/-- Do something that a fault does not stop but gives a status. -/
def catchFault (x : Eval Nat) : Eval Nat := do
  match ← attempt x with
  | .ok status => return status
  | .error (.fault status) => return status
  | .error stop => throw stop

/-- Do something that changes the state for a while; `restore` gives what it was before. -/
def during {α : Type} (change : State → State) (restore : (before after : State) → State)
    (x : Eval α) : Eval α := do
  let before ← get
  set (change before)
  let outcome ← attempt x
  modify (restore before)
  match outcome with
  | .ok a => return a
  | .error stop => throw stop

/-- The environment that programs are given. -/
def environmentOf (s : State) : Environment :=
  s.bindings.filterMap fun (name, v) => if v.exported then v.value?.map fun value => (name, value) else none

/-- Do something as a process that is the shell itself. -/
def task {α : Type} (t : Task α) : Eval α := fun s k =>
  t { inShell := true } fun a => k (.ok a) s

/-- Ask something of the kernel. -/
def call {α : Type} (x : Call α) : Eval α :=
  task (Task.call x)

/-- Set the exit status. -/
def setStatus (n : Nat) : Eval Unit :=
  modify fun s => { s with status := n }

/-- What complaints begin with: the shell's name, the line and the command that is carried out. -/
def speaker : Eval String := do
  let s ← get
  return s.name ++ ": " ++ toString s.line ++ (if s.command = "" then "" else ": " ++ s.command)

/-- Write a complaint. -/
def complain (text : String) : Eval Unit := do
  task (Task.remark ((← speaker) ++ ": " ++ text))

/-- Do something as a command that complaints name. -/
def asCommand {α : Type} (command : String) (body : Eval α) : Eval α :=
  during (fun s => { s with command }) (fun before s => { s with command := before.command }) body

/-- Complain and leave the shell. -/
def abort {α : Type} (text : String) : Eval α := do
  complain text
  throw (.fault 2)

/-! ## Variables and parameters -/

/-- The value of a variable, if it is set. -/
def valueOf? (name : String) : Eval (Option String) :=
  return ((← get).bindings.lookup name).bind Variable.value?

/-- The directory that a word may name by a tilde: the home directory. -/
def home? : Eval (Option String) :=
  valueOf? "HOME"

/-- Set a variable, or take its value away. Setting `OPTIND` also makes `getopts` start at the beginning
of an argument. -/
def bindVariable (name : String) (value? : Option String) : Eval Unit := do
  let s ← get
  let old := (s.bindings.lookup name).getD { value? }
  if old.readOnly then abort (name ++ ": is read only")
  if name = "OPTIND" then
    match Text.readNumber? (value?.getD "") with
    | some n => modify fun s => { s with optionPlace := (max 1 n, 0) }
    | none => abort ("Illegal number: " ++ value?.getD "")
  let new := { old with value?, exported := old.exported || s.settings.exportAll }
  let others := s.bindings.filter (·.1 != name)
  let isKept := value?.isSome || s.settings.exportAll
  modify fun s => { s with bindings := if isKept then (name, new) :: others else others }
  if name = "PATH" then modify fun s => { s with tracked := [] }

/-- Set a variable. -/
def assign (name value : String) : Eval Unit :=
  bindVariable name (some value)

/-- Change the marks of a variable, which need not be set. -/
def markVariable (name : String) (f : Variable → Variable) : Eval Unit :=
  modify fun s =>
    let old := (s.bindings.lookup name).getD { value? := none }
    { s with bindings := (name, f old) :: s.bindings.filter (·.1 != name) }

/-- The characters that separate fields. -/
def separators : Eval (List Char) :=
  return ((← valueOf? "IFS").getD " \t\n").toList

/-- The value of a parameter that is not a list, if it is set. -/
def parameter? (name : String) : Eval (Option String) := do
  let s ← get
  match name with
  | "?" => return some (toString s.status)
  | "#" => return some (toString s.arguments.length)
  | "$" => return some (toString s.pid)
  | "!" => return s.background.map toString
  | "-" => return some s.settings.letters
  | "0" => return some s.name
  | _ =>
    match Text.readNumber? name with
    | some 0 => return some s.name
    | some n => return s.arguments[n - 1]?
    | none => valueOf? name

/-- The environment that programs are given. -/
def environment : Eval Environment :=
  return environmentOf (← get)

/-! ## Descriptors and other processes -/

/-- The table of descriptors. -/
def descriptors : Eval (List (Nat × Nat)) :=
  return (← call Call.self).descriptors

/-- Do something with other descriptors. -/
def withDescriptors {α : Type} (table : List (Nat × Nat)) (body : Eval α) : Eval α := do
  let before ← descriptors
  call (Call.setDescriptors table)
  let outcome ← attempt body
  call (Call.setDescriptors before)
  match outcome with
  | .ok a => return a
  | .error stop => throw stop

/-- The process of a copy of the shell that does something and ends. -/
def childProgram (s : State) (body : Eval Nat) : Program :=
  body s fun r s => match r with
    | .ok status => .finish status
    | .error (.exit status) => .finish status
    | .error (.fault status) => .finish status
    | .error (.back status) => .finish status
    | .error _ => .finish s.status

/-- Start a copy of the shell that does something and ends: the number of its process. -/
def fork (body : Eval Nat) : Eval Nat := fun s k =>
  .fork (childProgram s body) fun pid => k (.ok pid) s

/-- Give up the shell and go on as another program; caught signals get their usual effect again. -/
def become {α : Type} (program : State → Program) : Eval α := fun s _ =>
  .step fun kernel =>
    (program s, kernel.modifyProcess kernel.current fun p => { p with caught := [], arrived := [] })

/-- Go on in a copy of the shell: signals that were acted on get their usual effect again, and the
jobs are somebody else's. -/
def asCopy : Eval Unit := do
  modify fun s => { s with
    traps := s.traps.filter fun t => t.2 = "" && t.1 ≠ 0, jobs := [], endings := [], outerStatus := none
    readTo := 1 }
  call (Call.modifySelf fun p => { p with caught := [] })

/-! ## Waiting -/

/-- Tell of a process of a job that a signal killed, unless that is nothing to tell of. -/
def announce (ending : Ending) : Eval Unit := do
  match ending with
  | .exited _ => pure ()
  | .killed n => if n ≠ 2 && n ≠ pipeSignal then task (Task.remark (signalText n))

/-- Wait until a child ends, and note how; `own` tells whose endings are told of. When signals may
interrupt, the answer tells whether one did. -/
def waitAny (interruptible : Bool) (own : Nat → Bool) : Eval Bool := do
  let ended : Call (Option Process) := do
    match (← get).endedChildren with
    | [] => return none
    | p :: _ =>
      let _ ← Call.reap? p.pid
      return some p
  let note (p : Process) : Eval Unit := do
    let ending := p.ending.getD (.exited 127)
    modify fun s => { s with endings := (p.pid, ending) :: s.endings }
    if own p.pid then announce ending
  match ← call ended with
  | some p =>
    note p
    return false
  | none =>
    task (Task.await (fun k =>
      !k.endedChildren.isEmpty || (interruptible && !k.self.arrived.isEmpty)) none)
    match ← call ended with
    | some p =>
      note p
      return false
    | none => return interruptible

/-- Wait for processes: whether a signal interrupted that. At most `fuel` endings are seen. -/
def waitAll (interruptible told : Bool) : (fuel : Nat) → List Nat → Eval Bool
  | 0, _ => return false
  | fuel + 1, pids => do
    let endings := (← get).endings
    let missing := pids.filter fun p => (endings.lookup p).isNone
    if missing.isEmpty then return false
    if (← call do return (← get).processes.filter fun p => missing.contains p.pid).isEmpty then
      return false
    if ← waitAny interruptible (fun p => told && pids.contains p) then return true
    waitAll interruptible told fuel pids

/-- How a child ended that was waited for; it need not be remembered any more. -/
def takeEnding (pid : Nat) : Eval Ending := do
  let ending := ((← get).endings.lookup pid).getD (.exited 127)
  modify fun s => { s with endings := s.endings.filter (·.1 != pid) }
  return ending

/-- Wait for processes that run in the foreground: the number of the last one's ending. -/
def waitForeground (pids : List Nat) : Eval Nat := do
  let _ ← waitAll false true Task.patience pids
  let endings ← pids.mapM takeEnding
  return (endings.getLast?.map Ending.number).getD 0

/-- Do something in a copy of the shell and wait for its end: the number it ends with. -/
def inSubshell (body : Eval Nat) : Eval Nat := do
  let pid ← fork do
    asCopy
    body
  waitForeground [pid]

end Eval

end CommandSpec.Shell
