import CommandSpec.Path
import CommandSpec.Report.Tally
import CommandSpec.Session.Run

/-!
# Running spec files

On request each file is run from inside its directory, under its bare name, and the directory that
was current before is entered again, whatever came of the run. A directory that cannot be entered
costs one failed testcase; one that cannot be left again stops the run.
-/

namespace CommandSpec

/-- A place with files and a current directory, where commands are run. -/
class Host (σ : Type) extends Executor σ where
  currentDirectory : EStateM Fault σ String
  enter : (directory : String) → EStateM Fault σ Unit
  openSpec : (path : String) → EStateM Fault σ (Source σ)

structure RunOptions extends SpecOptions where
  /-- Whether each file is run from inside its directory. -/
  changeDirectory : Bool := false
  deriving DecidableEq, Repr

def standardInputLabel : String := "<STDIN>"

/-- What a file costs whose directory cannot be entered: one failed testcase of one. -/
def directoryPenalty : Nat × Nat := (1, 1)

namespace Running

variable {ω δ σ α : Type}

def atHost (toError : Fault → RunError) (action : EStateM Fault σ α) : Running ω δ σ α := fun c =>
  match action c.host with
  | .ok a host => .ok a { c with host }
  | .error fault host => .error (toError fault) { c with host }

/-- Do something at the host and take its fault, if there is one, as an answer. -/
def tryHost (action : EStateM Fault σ α) : Running ω δ σ (Except Fault α) := fun c =>
  match action c.host with
  | .ok a host => .ok (.ok a) { c with host }
  | .error fault host => .ok (.error fault) { c with host }

def attempt (action : Running ω δ σ α) : Running ω δ σ (Except RunError α) := fun c =>
  match action c with
  | .ok a c => .ok (.ok a) c
  | .error e c => .ok (.error e) c

def diagnose [Channel δ] (text : String) : Running ω δ σ Unit := fun c =>
  match Channel.put (text ++ "\n") c.diagnostics with
  | .ok _ diagnostics => .ok () { c with diagnostics }
  | .error fault diagnostics => .error (.ofFault fault) { c with diagnostics }

def report [Channel ω] (text : String) : Running ω δ σ Unit := fun c =>
  match Channel.put (text ++ "\n") c.report with
  | .ok _ report => .ok () { c with report }
  | .error fault report => .error (.ofFault fault) { c with report }

end Running

namespace RunError

def cannotEnter (directory : String) (fault : Fault) : RunError :=
  { kind := .chdir, message := "cannot change to " ++ directory ++ ": " ++ fault.text }

def cannotReturn (directory : String) (fault : Fault) : RunError :=
  { kind := .chdir, message := "cannot return to " ++ directory ++ ": " ++ fault.text }

end RunError

section

variable {ω δ σ : Type} [Channel ω] [Channel δ] [Host σ]

open Running

def runOpened (opts : RunOptions) (label path : String) : Running ω δ σ (Nat × Nat) := do
  let source ← atHost (fun fault => (RunError.ofFault fault).inFile label) (Host.openSpec path)
  runSpec opts.toSpecOptions label source

/-- Run a file from inside a directory. -/
def runInside (opts : RunOptions) (label directory name : String) : Running ω δ σ (Nat × Nat) := do
  let previous ← atHost RunError.ofFault Host.currentDirectory
  match ← tryHost (Host.enter directory) with
  | .error fault =>
    diagnose ((RunError.cannotEnter directory fault).inFile label).render
    return directoryPenalty
  | .ok () =>
    let results ← attempt (runOpened opts label name)
    atHost (fun fault => (RunError.cannotReturn previous fault).inFile label) (Host.enter previous)
    match results with
    | .ok results => return results
    | .error e => throw e

/-- The directory to enter and the name to open for a path, if a directory is entered at all. -/
def place? (opts : RunOptions) (path : String) : Option (String × String) :=
  if opts.changeDirectory then Path.splitName? path else none

/-- Run one spec file: how many of its testcases failed, and how many there were. -/
def runSpecFile (opts : RunOptions) (path : String) : Running ω δ σ (Nat × Nat) :=
  match place? opts path with
  | some (directory, name) => runInside opts path directory name
  | none => runOpened opts path path

def runEach (opts : RunOptions) : Totals → List String → Running ω δ σ Totals
  | totals, [] => return totals
  | totals, path :: rest => do runEach opts (totals.add (← runSpecFile opts path)) rest

/-- Run spec files and sum them up if there are several. Without files, the spec is read from
standard input. -/
def runSpecFiles (opts : RunOptions) (stdin : Source σ) (paths : List String) :
    Running ω δ σ Totals := do
  if paths.isEmpty then
    return Totals.add {} (← runSpec opts.toSpecOptions standardInputLabel stdin)
  else
    let totals ← runEach opts {} paths
    if totals.files > 1 then
      report totals.summary
    return totals

end

end CommandSpec
