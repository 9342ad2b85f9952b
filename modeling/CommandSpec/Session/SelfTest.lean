import CommandSpec.Session.Run

/-!
# The self-test

The self-test checks how blocks and directives are read on a few samples, and then runs small specs
whose results are known. Each check is a testcase of a report of its own; what the small specs write
is dropped.
-/

namespace CommandSpec.SelfTest

/-- A spec and the counts it must give. -/
structure Sample where
  name : String
  spec : String
  filterDebug : Bool := false
  expected : Nat × Nat

def factChecks : List (String × Bool) :=
  [ ("codec round trip",
      [[], [""], ["a", "b"], ["", "x", ""]].all fun ls => linesOfBlock (blockOfLines ls) = ls),
    ("codec empty block", blockOfLines [] = "" && linesOfBlock "" = []),
    ("codec single newline", linesOfBlock "\n" = [""]),
    ("classify command", Directive.classify "!echo hi" = .command "echo hi"),
    ("classify status", Directive.classify "?0" = .status 0),
    ("classify malformed", Directive.classify "@x" = .unknown "@x") ]

def samples : List Sample :=
  [ ⟨"echo", "!echo hello\n>hello\n?0\n", false, (0, 1)⟩,
    ⟨"exit-status", "!exit 3\n?3\n", false, (0, 1)⟩,
    ⟨"mismatch", "!echo wrong\n>right\n?0\n", false, (1, 1)⟩,
    ⟨"comments-only", "# nothing\n\n", false, (0, 0)⟩,
    ⟨"stdin", "!cat\n<in\n>in\n", false, (0, 1)⟩,
    ⟨"malformed", "!true\n%x\n", false, (1, 1)⟩,
    ⟨"debug-filter", "!echo '#n'; echo ok\n>ok\n", true, (0, 1)⟩,
    ⟨"debug-unfiltered", "!echo '#n'; echo ok\n>ok\n", false, (1, 1)⟩ ]

def showCounts (counts : Nat × Nat) : String :=
  "(" ++ toString counts.1 ++ ", " ++ toString counts.2 ++ ")"

variable {ω δ σ : Type}

abbrev Step (ω δ σ : Type) := Session.Step ω δ σ

/-- The options that a check is run with, whatever the options of the engine are. -/
def Sample.options (check : Sample) (engine : SpecOptions) : SpecOptions :=
  { engine with filterDebug := check.filterDebug, verbose := false }

/-- Run the spec of a check at sinks of its own: the counts it gives. -/
def runSample [Executor σ] (engine : SpecOptions) (check : Sample) :
    Step ω δ σ (Nat × Nat) := fun s =>
  let console : Console Sink Sink σ := ⟨.unlimited, .unlimited, s.host⟩
  match runSpec (check.options engine) check.name (.ofString check.spec) console with
  | .ok results c => .ok results { s with host := c.host }
  | .error e c => .error e { s with host := c.host }

variable [Channel ω]

/-- Close a check, which fails for a reason or passes. -/
def record (failure? : Option String) : Step ω δ σ Unit := Session.reporting do
  match failure? with
  | some reason => Report.fail reason
  | none => pure ()
  Report.advance

def runFactChecks : List (String × Bool) → Step ω δ σ Unit
  | [] => pure ()
  | (name, passed) :: rest => do
    record (if passed then none else some name)
    runFactChecks rest

variable [Executor σ]

def runSamples (engine : SpecOptions) : List Sample → Step ω δ σ Unit
  | [] => pure ()
  | check :: rest => do
    let got ← runSample engine check
    record (if got = check.expected then none
      else some
        (check.name ++ ": got " ++ showCounts got ++ ", expected " ++ showCounts check.expected))
    runSamples engine rest

def steps (engine : SpecOptions) : Step ω δ σ Bool := do
  runFactChecks factChecks
  runSamples engine samples
  Session.reporting Report.summary
  return (← get).report.tally.failures = 0

/-- Run the self-test of an engine at a console: whether every check passed. -/
def runWith (engine : SpecOptions) (verbose : Bool) : Running ω δ σ Bool := fun c =>
  match steps engine ⟨.start "selftest" verbose c.report, c.diagnostics, c.host⟩ with
  | .ok passed s => .ok passed ⟨s.report.out, s.diagnostics, s.host⟩
  | .error e s => .error e ⟨s.report.out, s.diagnostics, s.host⟩

/-- Run the self-test of the program, whose engine is verbose if the self-test is. -/
def run (verbose : Bool) : Running ω δ σ Bool :=
  runWith { verbose } verbose

end CommandSpec.SelfTest
