import CommandSpec.Session.Files
import CommandSpec.Session.SelfTest

/-!
# The command line

Options are read from left to right: `--help` and `--version` answer at once, a mistake before them
wins. Each option may be given once; options of one letter may be joined, and `--` ends the options.
-/

namespace CommandSpec.CommandLine

structure Arguments where
  changeDirectory : Bool := false
  filterDebug : Bool := false
  selfTest : Bool := false
  debug : Bool := false
  verbose : Bool := false
  files : List String := []
  deriving DecidableEq, Repr

inductive Switch where
  | changeDirectory
  | filterDebug
  | selfTest
  | debug
  | verbose
  | help
  | version
  deriving DecidableEq, Repr

inductive Request where
  | help
  | version
  | mistake (message : String)
  | run (arguments : Arguments)
  deriving DecidableEq, Repr

namespace Switch

def ofLetter? : Char → Option Switch
  | 'C' => some changeDirectory
  | 'D' => some filterDebug
  | 'T' => some selfTest
  | 'd' => some debug
  | 'v' => some verbose
  | 'h' => some help
  | 'V' => some version
  | _ => none

def ofName? : String → Option Switch
  | "chdir" => some changeDirectory
  | "filter-debug" => some filterDebug
  | "self-test" => some selfTest
  | "debug" => some debug
  | "verbose" => some verbose
  | "help" => some help
  | "version" => some version
  | _ => none

/-- The option as usage messages show it. -/
def shown : Switch → String
  | changeDirectory => "--chdir"
  | filterDebug => "--filter-debug"
  | selfTest => "--self-test"
  | debug => "--debug"
  | verbose => "--verbose"
  | help => "--help"
  | version => "--version"

end Switch

/-- The arguments with one more option, or the request that the option makes at once. -/
def Arguments.set (a : Arguments) (o : Switch) : Except Request Arguments :=
  let once (given : Bool) (next : Arguments) : Except Request Arguments :=
    if given then
      .error (.mistake ("the argument '" ++ o.shown ++ "' cannot be used multiple times"))
    else .ok next
  match o with
  | .changeDirectory => once a.changeDirectory { a with changeDirectory := true }
  | .filterDebug => once a.filterDebug { a with filterDebug := true }
  | .selfTest => once a.selfTest { a with selfTest := true }
  | .debug => once a.debug { a with debug := true }
  | .verbose => once a.verbose { a with verbose := true }
  | .help => .error .help
  | .version => .error .version

def unexpected {α : Type} (arg : String) : Except Request α :=
  .error (.mistake ("unexpected argument '" ++ arg ++ "' found"))

/-- The arguments with the options of some letters. -/
def Arguments.setLetters (a : Arguments) : List Char → Except Request Arguments
  | [] => .ok a
  | c :: cs => do
    match Switch.ofLetter? c with
    | some o => setLetters (← a.set o) cs
    | none => unexpected ("-" ++ c.toString)

def Arguments.addFile (a : Arguments) (path : String) : Except Request Arguments :=
  if path = "" then
    .error (.mistake "a value is required for '[FILES]...' but none was supplied")
  else .ok { a with files := a.files ++ [path] }

def Arguments.addFiles (a : Arguments) : List String → Except Request Arguments
  | [] => .ok a
  | path :: rest => do addFiles (← a.addFile path) rest

def Arguments.setName (a : Arguments) (name : String) : Except Request Arguments :=
  match Switch.ofName? name with
  | some o => a.set o
  | none => unexpected ("--" ++ name)

/-- Read arguments from left to right. -/
def read (a : Arguments) : List String → Except Request Arguments
  | [] => .ok a
  | arg :: rest => do
    match arg.toList with
    | ['-', '-'] => a.addFiles rest
    | '-' :: '-' :: name => read (← a.setName (.ofList name)) rest
    | '-' :: c :: cs => read (← a.setLetters (c :: cs)) rest
    | _ => read (← a.addFile arg) rest

def request (args : List String) : Request :=
  match read {} args with
  | .ok a => .run a
  | .error r => r

def Request.files : Request → List String
  | .run a => a.files
  | _ => []

/-- Whether a request is answered from standard input. -/
def Request.readsInput : Request → Bool
  | .run a => a.files.isEmpty && !a.selfTest
  | _ => false

/-! ## Answers -/

def versionText : String :=
  "emx-shelltest 0.1.0\n"

def usageText : String :=
  "Usage: emx-shelltest [OPTIONS] [FILES]..."

def helpLines : List String :=
  [ "Run shell-command testcases from spec files",
    "",
    usageText,
    "",
    "Arguments:",
    "  [FILES]...  Spec files to run; reads stdin when none are given",
    "",
    "Options:",
    "  -C, --chdir         Change into each spec file's directory while running it",
    "  -D, --filter-debug  Ignore output lines starting with '#' or 'DEBUG:' when comparing",
    "  -T, --self-test     Run the built-in self-test instead of spec files",
    "  -d, --debug         Internal debug tracing on stderr",
    "  -v, --verbose       Verbose output: report passing testcases and echo comments",
    "  -h, --help          Print help",
    "  -V, --version       Print version" ]

def mistakeText (message : String) : String :=
  "error: " ++ message ++ "\n\n" ++ usageText ++ "\n\nFor more information, try '--help'.\n"

/-- How the program ended: the number it ended with, and its console then. -/
structure Ending (ω δ σ : Type) where
  exitCode : Nat
  console : Console ω δ σ

def Arguments.runOptions (a : Arguments) : RunOptions :=
  { filterDebug := a.filterDebug, verbose := a.verbose, changeDirectory := a.changeDirectory }

def Arguments.activity (a : Arguments) : String :=
  if a.selfTest then "self-test aborted" else "run aborted"

variable {ω δ σ : Type} [Channel ω] [Channel δ]

/-- Hand over a text, whether or not it is taken. -/
def handOver (text : String) (out : ω) : ω :=
  match Channel.put text out with
  | .ok _ out => out
  | .error _ out => out

/-- Tell the error that ended the program. The number is another one if that is refused too. -/
def abort (a : Arguments) (e : RunError) (c : Console ω δ σ) : Ending ω δ σ :=
  match Running.diagnose ("error: " ++ a.activity ++ ": " ++ e.render) c with
  | .ok _ c => ⟨1, c⟩
  | .error _ c => ⟨101, c⟩

variable [Host σ]

/-- Run spec files or the self-test: whether everything passed. -/
def perform (a : Arguments) (stdin : Source σ) : Running ω δ σ Bool := do
  if a.selfTest then SelfTest.run a.verbose
  else return (← runSpecFiles a.runOptions stdin a.files).allPassed

/-- Run the program at a console. It ends with 0 when everything passed, with 1 when something
failed, and with 2 when the arguments are wrong. -/
def runAt (args : List String) (stdin : Source σ) (c : Console ω δ σ) : Ending ω δ σ :=
  match request args with
  | .help => ⟨0, { c with report := handOver (blockOfLines helpLines) c.report }⟩
  | .version => ⟨0, { c with report := handOver versionText c.report }⟩
  | .mistake message => ⟨2, { c with diagnostics := handOver (mistakeText message) c.diagnostics }⟩
  | .run a =>
    match perform a stdin c with
    | .ok passed c => ⟨if passed then 0 else 1, c⟩
    | .error e c => abort a e c

structure Outcome (σ : Type) where
  exitCode : Nat
  stdout : String
  stderr : String
  host : σ

/-- Run the program and keep what it writes. -/
def run (args : List String) (stdin : Source σ) (host : σ) : Outcome σ :=
  let ending := runAt args stdin ⟨"", "", host⟩
  ⟨ending.exitCode, ending.console.report, ending.console.diagnostics, ending.console.host⟩

end CommandSpec.CommandLine
