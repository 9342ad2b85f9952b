import CommandSpec.Shell.Builtin
import CommandSpec.Shell.Run

/-!
# Starting programs

The file that a path names is a utility, the shell or a script, which the program runs that its first
line names, or else the shell. Any of them takes the place of what its process did before.
-/

namespace CommandSpec.Shell

open Eval

/-! ## How a shell is called

The arguments of `sh` set options and tell where the script comes from: from an argument after `-c`,
from a file, or from standard input. -/

/-- What the arguments of the program `sh` ask for. -/
structure Invocation where
  settings : Settings := {}
  /-- Whether the script is given as an argument. -/
  fromArgument : Bool := false
  operands : List String := []
  deriving Inhabited

/-- Whether the script, or what follows the one given as an argument, is read from standard input. -/
def Invocation.fromInput (i : Invocation) : Bool :=
  i.settings.has 's' || (i.operands.isEmpty && !i.fromArgument)

/-- The settings that a shell starts with. -/
def Invocation.started (i : Invocation) : Settings :=
  let settings := Builtin.setOption false i.settings 'm'
  if i.fromInput then Builtin.setOption true settings 's' else settings

/-- What the options among the arguments of the program `sh` come to. -/
def readCall (args : List String) : Builtin.SettingsRequest :=
  Builtin.readSettings ['c', 'l'] { settings := {} } args

/-- How a shell is called, by its options. -/
def Invocation.ofRequest (r : Builtin.SettingsRequest) : Invocation :=
  { settings := r.settings, fromArgument := r.others.contains 'c', operands := r.arguments.getD [] }

/-! ## The first state of a shell -/

/-- The variables of a new shell: those that it is given, and its own. -/
def firstBindings (environment : Environment) (directory : String) (parent : Nat) :
    List (String × Variable) :=
  let given := (environment.filter fun v => isName v.1 && v.1 ∉ ["IFS", "OPTIND", "PPID", "PWD"])
  let exported := (given ++ [("PWD", directory)]).map fun (x, value) =>
    (x, { value? := some value, exported := true : Variable })
  let own := [("IFS", " \t\n"), ("OPTIND", "1"), ("PATH", Located.standardPath), ("PPID", toString parent),
    ("PS1", "# "), ("PS2", "> "), ("PS4", "+ ")].filter fun v => (given.lookup v.1).isNone
  exported ++ own.map fun (x, value) => (x, { value? := some value })

/-- The path of the current directory as a new shell has it: the one that it is given, if that is
right. -/
def firstDirectory (k : Kernel) (given : Option String) : Except OsError String :=
  let here := k.self.directory
  match given with
  | none => k.files.absolutePath here
  | some path =>
    if path.toList.head? = some '/' && (k.files.resolve here path).toOption = some here then .ok path
    else k.files.absolutePath here

/-- Find the scripts that a shell is called with, and set the name and the arguments of the shell. -/
def findScripts (name : String) (i : Invocation) : Eval (Option (List Input)) := do
  let fromInput : Eval (Option (List Input)) := return some [.ofSource 0]
  match i.operands with
  | [] =>
    if i.fromArgument then
      complain "-c requires an argument"
      return none
    fromInput
  | script :: rest =>
    if i.fromArgument then
      modify fun s => { s with name := rest.headD name, arguments := rest.tail }
      let more ← if i.fromInput then fromInput else pure none
      return some (.ofText script 1 :: more.getD [])
    else if i.fromInput then
      modify fun s => { s with arguments := script :: rest }
      fromInput
    else
      match ← task (Task.openPath script .read) with
      | .ok fd =>
        modify fun s => { s with name := script, arguments := rest }
        return some [.ofSource fd]
      | .error e =>
        complain ("cannot open " ++ script ++ ": " ++ openWording false e)
        return none

/-- Run a shell on its arguments, from its start to its end. -/
def runShell (name : String) (args : List String) (directory : Except OsError String) : Eval Nat := do
  if let .error e := directory then complain ("getcwd() failed: " ++ e.wording)
  let request := readCall args
  for (settings, asCommands) in request.shown do
    Builtin.showSettings settings asCommands
  if let some mistake := request.mistake then
    complain ("Illegal option " ++ mistake)
    return 2
  let invocation := Invocation.ofRequest request
  modify fun s => { s with settings := invocation.started }
  if invocation.settings.has 'm' || invocation.settings.has 'i' then complain Builtin.noTerminal
  match ← findScripts name invocation with
  | none => return 2
  | some inputs =>
    ending Task.patience do
      for input in inputs do
        let _ ← runInput Task.patience {} input

/-- The program that a shell is. -/
def shellProgram (launch : Environment → (path name : String) → (args : List String) → Program)
    (environment : Environment) (name : String) (args : List String) : Program :=
  .step fun k =>
    let directory := firstDirectory k (environment.lookup "PWD")
    let here := directory.toOption.getD ""
    let state : State :=
      { name, launch, line := 0, pid := k.current, directory := here, deaf := k.self.ignored
        bindings := firstBindings environment here k.self.parent }
    (childProgram state (runShell name args directory), k)

/-- The time that it takes to start a program. -/
def startCost : Nat := 500

/-- The program that a path stands for, run under a name on arguments; at most `fuel` programs take
each other's place. -/
def launch : (fuel : Nat) → Environment → (path name : String) → (args : List String) → Program
  | 0, _, _, _, _ => .finish 126
  | fuel + 1, environment, path, name, args =>
    .pause startCost (.step fun k =>
      let node? := (k.files.resolve k.self.directory path).toOption.map k.files.node
      match node?.map Node.content with
      | some (.program "sh") => (shellProgram (launch fuel) environment name args, k)
      | some (.program utility) =>
        match Utility.catalog.lookup utility with
        | some run =>
          ((Utility.run name run args).program { environment, launch := launch fuel }, k)
        | none => (.finish 127, k)
      | some (.file bytes) =>
        match Located.interpreter? (Octets.unpack (bytes.extract 0 256)) with
        | some (interpreter, more) =>
          (launch fuel environment interpreter interpreter (more ++ path :: args), k)
        | none => (launch fuel environment "/bin/sh" "/bin/sh" (path :: args), k)
      | _ => (.finish 126, k))

end CommandSpec.Shell
