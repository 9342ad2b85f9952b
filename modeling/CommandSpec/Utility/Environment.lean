import CommandSpec.Machine.Locate
import CommandSpec.Utility.Names

/-!
# `env`

`env` changes the variables that programs are given: some are left out, and operands of the form
`name=value` set others. It shows them, or it goes on as a program that is given them.
-/

namespace CommandSpec.Utility

/-- What the arguments of `env` ask for. -/
structure EnvironmentCall where
  environment : Environment
  command : List String
  deriving Inhabited

/-- An environment with a variable set; a new one comes last. -/
def setVariable (environment : Environment) (name value : String) : Environment :=
  if (environment.lookup name).isSome then
    environment.map fun v => if v.1 = name then (name, value) else v
  else environment ++ [(name, value)]

/-- Split operands into variables, set in an environment, and a command. -/
def readVariables (environment : Environment) : List String → EnvironmentCall
  | [] => { environment, command := [] }
  | arg :: rest =>
    let name := arg.toList.takeWhile (· ≠ '=')
    if name.length = arg.length then { environment, command := arg :: rest }
    else
      readVariables (setVariable environment (.ofList name) (.ofList (arg.toList.drop (name.length + 1))))
        rest

/-! ## Texts split into arguments -/

/-- The character that a letter after a backslash stands for outside single quotes. -/
def splitEscape? : Char → Option Char
  | 'f' => some (Char.ofNat 12)
  | 'n' => some '\n'
  | 'r' => some '\r'
  | 't' => some '\t'
  | 'v' => some (Char.ofNat 11)
  | c => if "#$\"'\\".toList.contains c then some c else none

/-- Where a text that is split into arguments stands: the quote that is open, and the argument that is
begun. -/
structure SplitState where
  quote : Option Char := none
  word : Option (List Char) := none

namespace SplitState

/-- The state with one more character in the argument. -/
def push (s : SplitState) (c : Char) : SplitState :=
  { s with word := some ((s.word.getD []) ++ [c]) }

/-- The argument that is begun, if any. -/
def finished (s : SplitState) : List String :=
  s.word.toList.map String.ofList

end SplitState

/-- Split a text into arguments at blanks that are not quoted; at most `fuel` characters. A backslash
begins an escape, a dollar sign the name of a variable in braces, and a `#` a comment. -/
def splitArguments (environment : Environment) : (fuel : Nat) → SplitState → List Char →
    Except String (List String)
  | 0, s, _ => .ok s.finished
  | _ + 1, s, [] => if s.quote.isSome then .error "no terminating quote in -S string" else .ok s.finished
  | fuel + 1, s, c :: cs =>
    let goOn (s : SplitState) (cs : List Char) : Except String (List String) :=
      splitArguments environment fuel s cs
    let isBlank := c = ' ' || ('\t' ≤ c && c ≤ '\r')
    if s.quote = some '\x27' then
      match c, cs with
      | '\x27', _ => goOn { s with quote := none } cs
      | '\\', d :: rest => if d = '\\' || d = '\x27' then goOn (s.push d) rest else goOn (s.push c) cs
      | _, _ => goOn (s.push c) cs
    else if s.quote.isNone && isBlank then do
      return s.finished ++ (← goOn { s with word := none } cs)
    else if s.quote.isNone && s.word.isNone && c = '#' then .ok []
    else if s.quote = some c then goOn { s with quote := none } cs
    else if s.quote.isNone && (c = '"' || c = '\x27') then
      goOn { quote := some c, word := some (s.word.getD []) } cs
    else if c = '\\' then
      match cs with
      | [] => .error "invalid backslash at end of string in -S"
      | '_' :: rest =>
        if s.quote.isSome then goOn (s.push ' ') rest
        else do return s.finished ++ (← goOn { s with word := none } rest)
      | 'c' :: _ =>
        if s.quote.isSome then .error "'\\c' must not appear in double-quoted -S string" else .ok s.finished
      | d :: rest =>
        match splitEscape? d with
        | some e => goOn (s.push e) rest
        | none => .error ("invalid sequence '\\" ++ d.toString ++ "' in -S")
    else if c = '$' then
      let name := (cs.drop 1).takeWhile fun d => d.isAlphanum || d = '_'
      match cs.head?, (cs.drop (name.length + 1)).head? with
      | some '\x7b', some '\x7d' =>
        let value := ((environment.lookup (.ofList name)).getD "").toList
        goOn (value.foldl SplitState.push { s with word := some (s.word.getD []) }) (cs.drop (name.length + 2))
      | _, _ => .error ("only $\x7bVARNAME\x7d expansion is supported, error at: " ++ .ofList (c :: cs))
    else goOn (s.push c) cs

/-! ## Options -/

/-- The options of `env`. -/
def environmentOptions : OptionTable :=
  { flags := "i0v", valued := "uCS", ordered := true
    names := [("ignore-environment", "i"), ("null", "0"), ("unset", "u"), ("chdir", "C"),
      ("split-string", "S"), ("debug", "v")]
    words := ["list-signal-handling"]
    openWords := ["block-signal", "default-signal", "ignore-signal"] }

/-- Arguments with the text after the option that asks for that split up; at most `fuel` times. -/
def splitFirst (environment : Environment) : (fuel : Nat) → List String → Except String (List String)
  | 0, args => .ok args
  | _ + 1, [] => .ok []
  | fuel + 1, arg :: rest => do
    let text? := match arg.toList with
      | '-' :: '-' :: cs =>
        let name := "split-string=".toList
        if name.isPrefixOf cs then some (cs.drop name.length) else none
      | '-' :: cs =>
        let flags := cs.takeWhile fun c => c = 'i' || c = 'v' || c = '0'
        match cs.drop flags.length with
        | 'S' :: text => some text
        | _ => none
      | _ => none
    let split (text : List Char) : Except String (List String) :=
      splitArguments environment (text.length + 1) {} text
    let flags := arg.toList.takeWhile (· ≠ 'S')
    let kept := if flags.length > 1 && flags.head? = some '-' && flags[1]? ≠ some '-'
      then [String.ofList flags] else []
    match text?, rest with
    | some [], text :: rest => return kept ++ (← splitFirst environment fuel ((← split text.toList) ++ rest))
    | some [], [] => return [arg]
    | some text, rest => return kept ++ (← splitFirst environment fuel ((← split text) ++ rest))
    | none, _ =>
      if arg.toList.head? = some '-' && arg ≠ "-" && arg ≠ "--" then
        return arg :: (← splitFirst environment fuel rest)
      return arg :: rest

/-- The environment and the command that the arguments of `env` make of an inherited environment. -/
def readEnvironment (inherited : Environment) (a : Arguments) : EnvironmentCall :=
  let (startsEmpty, operands) := match a.operands with
    | "-" :: rest => (true, rest)
    | operands => (a.has "i", operands)
  let gone := (a.options.filter (·.1 = "u")).map Prod.snd
  readVariables (if startsEmpty then [] else inherited.filter (!gone.contains ·.1)) operands

/-- Go on as the program that a name leads to, or complain that there is none. -/
def goOnAs (environment : Environment) (name : String) (args : List String) : Task Nat := do
  let (files, cwd) ← Task.place
  let launch := (← read).launch
  match Located.ofName files cwd ((environment.lookup "PATH").getD "/bin:/usr/bin") name with
  | .program path => Task.become (launch environment path name args)
  | .denied =>
    Task.complain (inQuotes name ++ ": Permission denied")
    return 126
  | .missing =>
    Task.complain (inQuotes name ++ ": No such file or directory")
    return 127

/-- Make another directory current, or complain that it cannot be. -/
def enterDirectory (directory : String) : Task Bool := do
  let (files, cwd) ← Task.place
  let outcome : Except OsError Inode := do
    let i ← files.resolve cwd directory
    if (files.node i).isDirectory then return i
    throw .notDirectory
  match outcome with
  | .ok i =>
    Task.call (Call.modifySelf fun p => { p with directory := i })
    return true
  | .error e =>
    Task.complain ("cannot change directory to " ++ inQuotes directory ++ ": " ++ e.wording)
    return false

/-- Tell what is about to be done. -/
def tellSteps (a : Arguments) (command : List String) : Task Unit := do
  if a.has "i" then Task.remark "cleaning environ"
  for (option, name) in a.options do
    if option = "u" then Task.remark ("unset:    " ++ name)
  for setting in a.operands.take (a.operands.length - command.length) do
    Task.remark ("setenv:   " ++ setting)
  if let some directory := a.value? "C" then Task.remark ("chdir:    " ++ inQuotes directory)
  if let name :: _ := command then
    Task.remark ("executing: " ++ name)
    for (arg, k) in command.zipIdx do
      Task.remark ("   arg[" ++ toString k ++ "]= " ++ inQuotes arg)

/-- Run a program in a changed environment, or show that environment:
`env [-iv0] [-u name] [-C directory] [-S text] [name=value…] [program [argument…]]`. -/
def env (args : List String) : Task Nat := do
  let environment := (← read).environment
  let run (a : Arguments) : Task Nat := do
    let bad? := a.options.find? fun o => o.1 = "u" && (o.2 = "" || o.2.toList.contains '=')
    if let some (_, name) := bad? then
      Task.complain ("cannot unset " ++ inQuotes name ++ ": " ++ OsError.invalid.wording)
      return 125
    let { environment, command } := readEnvironment environment a
    match command with
    | [] =>
      if a.hasAny ["C"] then return (← misuse "must specify command with --chdir (-C)" 125)
      Task.print (closed (a.has "0") (environment.map fun (x, v) => x ++ "=" ++ v))
      return 0
    | name :: args =>
      if a.has "0" then return (← misuse "cannot specify --null (-0) with command" 125)
      if a.has "v" then tellSteps a command
      if let some directory := a.value? "C" then
        if !(← enterDirectory directory) then return 125
      goOnAs environment name args
  match splitFirst environment (args.length + 8) args with
  | .error complaint =>
    Task.complain complaint
    return 125
  | .ok args => withOptions environmentOptions args run 125

/-- Show variables: `printenv [-0] [name…]`. -/
def printenv (args : List String) : Task Nat :=
  let table : OptionTable := { flags := "0", names := [("null", "0")], ordered := true }
  let run (a : Arguments) : Task Nat := do
    let environment := (← read).environment
    if a.operands.isEmpty then
      Task.print (closed (a.has "0") (environment.map fun (x, v) => x ++ "=" ++ v))
      return 0
    let values := a.operands.map fun name => environment.lookup name
    Task.print (closed (a.has "0") (values.filterMap id))
    return if values.all Option.isSome then 0 else 1
  withOptions table args run 2

end CommandSpec.Utility
