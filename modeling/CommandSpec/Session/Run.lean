import CommandSpec.Report.Check
import CommandSpec.Session.Executor
import CommandSpec.Session.Source
import CommandSpec.Spec.Testcase

/-!
# Running one spec

More bytes are asked for only when no line is left among those at hand. A testcase that a line
closes is run at once, and a line that is rejected is told on the diagnostics channel. The run stops
where a command cannot be started, where the spec cannot be read and where a channel refuses.
-/

namespace CommandSpec

structure SpecOptions where
  filterDebug : Bool := false
  /-- Whether commands, passing testcases and comments are reported. -/
  verbose : Bool := false
  deriving DecidableEq, Repr

/-- Where a run happens: its two channels, and the place where commands are run. -/
structure Console (ω δ σ : Type) where
  report : ω
  diagnostics : δ
  host : σ

abbrev Running (ω δ σ : Type) := EStateM RunError (Console ω δ σ)

structure Session (ω δ σ : Type) where
  report : Report ω
  diagnostics : δ
  host : σ

namespace Session

variable {ω δ σ : Type}

abbrev Step (ω δ σ : Type) := EStateM RunError (Session ω δ σ)

def reporting {α : Type} (action : Reporting ω α) : Step ω δ σ α := fun s =>
  match action s.report with
  | .ok a report => .ok a { s with report }
  | .error fault report => .error (.ofFault fault) { s with report }

def diagnose [Channel δ] (text : String) : Step ω δ σ Unit := fun s =>
  match Channel.put (text ++ "\n") s.diagnostics with
  | .ok _ diagnostics => .ok () { s with diagnostics }
  | .error fault diagnostics => .error (.ofFault fault) { s with diagnostics }

/-- Run a command; an error is placed at the given line of the spec. -/
def execute [Executor σ] (command : String) (stdin : List String) (line : Nat) :
    Step ω δ σ Execution := fun s =>
  match Executor.execute command stdin s.host with
  | .ok result host => .ok result { s with host }
  | .error e host => .error (e.located s.report.tally.label line) { s with host }

variable [Channel ω] [Executor σ]

/-- Run one testcase and close it. A malformed one fails without being run. -/
def perform (opts : SpecOptions) (tc : Testcase) : Step ω δ σ Unit := do
  if tc.malformed then
    reporting (Report.fail
      ("malformed testcase at line " ++ toString tc.line ++ ", not executed"))
  else
    if opts.verbose then
      reporting (Report.message ("!" ++ tc.command))
    let result ← execute tc.command tc.stdin tc.line
    let _ ← reporting (Report.check "stdout" tc.command result.stdout tc.stdout opts.filterDebug)
    let _ ← reporting (Report.check "stderr" tc.command result.stderr tc.stderr opts.filterDebug)
    let _ ← reporting (Report.checkExitStatus tc.command result.exitStatus tc.exitStatus)
  reporting Report.advance

variable [Channel δ]

def refill (source : Source σ) : Step ω δ σ (List UInt8) := fun s =>
  match source.refill s.host with
  | .ok bytes host => .ok bytes { s with host }
  | .error fault host =>
    .error ((RunError.ofFault fault).inFile s.report.tally.label) { s with host }

def handle (opts : SpecOptions) : Taken → Step ω δ σ Unit
  | .inside => pure ()
  | .closed tc => perform opts tc
  | .rejected e => do diagnose (e.inFile (← get).report.tally.label).render

def takeLine (opts : SpecOptions) (d : Draft) (line : SpecLine) : Step ω δ σ Draft := do
  let (taken, d) := d.take line.directive
  handle opts taken
  if opts.verbose && line.directive = .blank then
    reporting (Report.line line.echo)
  return d

def takeLines (opts : SpecOptions) : Draft → List (List UInt8) → Step ω δ σ Draft
  | d, [] => return d
  | d, line :: rest => do takeLines opts (← takeLine opts d (.ofBytes line)) rest

/-- Take the lines of a source that may be asked for more so many times; `bytes` are at hand. A line
without its newline is taken where the source ends, and then the source is asked again. -/
def takeAll (opts : SpecOptions) (source : Source σ) :
    (refills : Nat) → (bytes : List UInt8) → Draft → Step ω δ σ Draft
  | 0, bytes, d => takeLines opts d (Text.physicalLines bytes)
  | refills + 1, bytes, d => do
    let (closed, rest) := Text.splitClosed bytes
    let d ← takeLines opts d closed
    match ← refill source with
    | [] =>
      if rest = [] then return d
      else takeAll opts source refills [] (← takeLine opts d (.ofBytes rest))
    | more => takeAll opts source refills (rest ++ more) d

def close (opts : SpecOptions) (d : Draft) : Step ω δ σ (Nat × Nat) := do
  match d.pending? with
  | some tc => perform opts tc
  | none => pure ()
  reporting Report.summary
  return (← get).report.tally.results

/-- Run a whole spec: how many testcases failed, and how many there were. -/
def run (opts : SpecOptions) (source : Source σ) : Step ω δ σ (Nat × Nat) := do
  close opts (← takeAll opts source source.refills source.bytes .empty)

end Session

/-- Run a spec at a console, under a label: how many of its testcases failed, and how many there
were. -/
def runSpec {ω δ σ : Type} [Channel ω] [Channel δ] [Executor σ] (opts : SpecOptions)
    (label : String) (source : Source σ) : Running ω δ σ (Nat × Nat) := fun c =>
  match Session.run opts source ⟨.start label opts.verbose c.report, c.diagnostics, c.host⟩ with
  | .ok results s => .ok results ⟨s.report.out, s.diagnostics, s.host⟩
  | .error e s => .error e ⟨s.report.out, s.diagnostics, s.host⟩

end CommandSpec
