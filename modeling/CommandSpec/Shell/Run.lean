import CommandSpec.Shell.Arithmetic
import CommandSpec.Shell.Locate
import CommandSpec.Shell.Parser
import CommandSpec.Shell.Redirection
import CommandSpec.Shell.Tilde

/-!
# Running scripts

Words are expanded, redirected and run as commands of the shell, as functions or as programs. The
stages of a pipeline, subshells, scripts whose output a word takes and commands in the background are
processes of their own, copies of the shell. A command that is the last thing its process does takes
the place of the shell instead of being started by it. After every command the shell acts on the
signals that came meanwhile. Running is one recursion, bounded by `fuel`.
-/

namespace CommandSpec.Shell

open Eval

/-- The answer to a script that runs on without end. -/
def outOfFuel {α : Type} : Eval α :=
  throw (.exit 137)

/-- The place that a command stands in. -/
structure Mode where
  /-- Whether its failure is no reason to leave the shell. -/
  tested : Bool := false
  /-- Whether it is the last thing that its process does. -/
  final : Bool := false
  deriving DecidableEq, Repr, Inhabited

/-- How a loop goes on after one turn. -/
inductive Turn where
  | next
  | again
  | over
  deriving DecidableEq

/-- One turn of a loop, which may leave loops or go on with the next turn. -/
def turn (x : Eval Unit) : Eval Turn := do
  match ← attempt x with
  | .ok () => return .next
  | .error (.leave n) => if n > 1 then throw (.leave (n - 1)) else return .over
  | .error (.again n) => if n > 1 then throw (.again (n - 1)) else return .again
  | .error stop => throw stop

/-- Something that is done in one more loop. -/
def inLoop {α : Type} (x : Eval α) : Eval α :=
  during (fun s => { s with loops := s.loops + 1 }) (fun before s => { s with loops := before.loops }) x

/-- Variables with one of them as it was before a function. -/
def restoreVariable (bindings : List (String × Variable)) (old : String × Option Variable) :
    List (String × Variable) :=
  let others := bindings.filter (·.1 != old.1)
  old.2.elim others fun v => (old.1, v) :: others

/-- Pieces of a value: split unless it stands in quotes. -/
def valuePieces (quoted : Bool) (value : String) : List Piece :=
  if quoted then [.text true value] else [.split value]

/-- Pieces of a value in which fields are kept apart by `fieldEnd`. -/
def listPieces (quoted : Bool) (value : String) : List Piece :=
  if quoted then ((value.splitOn fieldEnd.toString).map (Piece.text true)).intersperse .boundary
  else [.split value]

/-- What keeps the arguments apart that a parameter stands for. In a word that makes fields they are
fields of their own, unless they are joined by `"$*"`. -/
def listSeparator (splitting quoted joined : Bool) (separators? : Option (List Char)) : String :=
  if splitting && quoted && !joined then fieldEnd.toString
  else
    match separators? with
    | none => " "
    | some separators =>
      if splitting && !quoted then fieldEnd.toString
      else (separators.head?.map fun c => c.toString).getD ""

/-- Pieces of a word that stands for a parameter. -/
def alternativePieces (quoted : Bool) (pieces : List Piece) : List Piece :=
  if quoted && pieces.isEmpty then [.text true ""]
  else pieces.map fun
    | .text false s => if quoted then .text true s else .split s
    | piece => piece

/-- What the arguments of `command` ask for. -/
inductive CommandRequest where
  /-- To run a command, which is looked for along the standard path or that of the shell. -/
  | run (standard : Bool) (fields : List String)
  /-- To tell what a name stands for, or nothing. -/
  | tell
  deriving Inhabited

/-- Read the arguments of `command` up to the name of the command it is to run. -/
def CommandRequest.ofArgs (standard : Bool) : List String → CommandRequest
  | [] => .tell
  | "--" :: [] => .tell
  | "--" :: fields => .run standard fields
  | arg :: rest =>
    match arg.toList with
    | '-' :: c :: cs => if (c :: cs).all (· = 'p') then ofArgs true rest else .tell
    | _ => .run standard (arg :: rest)

/-- A command with the names of `command` before it taken off. -/
structure Resolved where
  /-- Whether `command` stood before it. -/
  direct : Bool := false
  /-- Whether it is looked for along the standard path. -/
  standard : Bool := false
  fields : List String
  deriving Inhabited

/-- Take `command` off the head of a command; `fuel` bounds how often it stands there. -/
def resolveCommand : (fuel : Nat) → Resolved → Resolved
  | 0, r => r
  | fuel + 1, r =>
    match r.fields with
    | "command" :: args =>
      match CommandRequest.ofArgs r.standard args with
      | .run standard fields => resolveCommand fuel { direct := true, standard, fields }
      | .tell => r
    | _ => r

/-- The command that fields are, unless a function has the name `command`. -/
def resolveHere (fields : List String) : Eval Resolved := do
  if ((← get).functions.lookup "command").isSome then return { fields }
  return resolveCommand fields.length { fields }

/-- Whether an action is set for a signal or for the end of the shell. -/
def hasTraps : Eval Bool :=
  return (← get).traps.any fun t => t.2 ≠ ""

/-- Note a job that was started in the background. -/
def addJob (pids : List Nat) : Eval Unit :=
  modify fun s =>
    let kept := s.jobs.filter fun j => !(j.waited && (j.ending? s.endings).isSome)
    let numbers := kept.map Job.number
    let number := ((List.range' 1 (kept.length + 1)).find? (!numbers.contains ·)).getD 1
    { s with jobs := { number, pids } :: kept, background := pids.getLast?.or s.background }

/-- The end of a descriptor's table: what a command in the background reads. -/
def withNullInput (table : List (Nat × Nat)) : Eval (List (Nat × Nat)) := do
  let id ← call (Call.openNew { stream := .device .null, readable := true })
  return Call.redirectTo table 0 id

/-- Give up the shell for a program. -/
def replaceBy {α : Type} (path name : String) (args : List String) : Eval α :=
  become fun s => s.launch (environmentOf s) path name args

/-- Whether a program cannot be given its arguments and environment: one of the texts, or all of them
together with the places they are listed in, would be too long. -/
def isTooLong (environment : Environment) (args : List String) : Bool :=
  let sizes := (args.map fun a => a.length + 1) ++
    environment.map fun v => v.1.length + v.2.length + 2
  sizes.any (· > 131072) || sumOf (sizes.map (· + 8)) > 2097152

/-- Run a program by its name. If it is the last thing that the process does, it takes the shell's
place. -/
def runProgram (mode : Mode) (standard : Bool) (name : String) (args : List String) : Eval Nat := do
  match ← locateHere standard name with
  | .missing =>
    complain (name ++ ": not found")
    return 127
  | .denied =>
    complain (name ++ ": Permission denied")
    return 126
  | .program path =>
    if isTooLong (← environment) (name :: args) then
      complain (name ++ ": Argument list too long")
      return 126
    if mode.final && !(← hasTraps) then replaceBy path name args
    else
      let pid ← fork (replaceBy path name args)
      waitForeground [pid]

mutual

/-- The pieces of a word, which makes fields if `splitting`. -/
def expand : (fuel : Nat) → (splitting : Bool) → Word → Eval (List Piece)
  | 0, _, _ => outOfFuel
  | _ + 1, _, [] => return []
  | fuel + 1, splitting, segment :: rest => do
    let first ← expandSegment fuel splitting segment
    return first ++ (← expand fuel splitting rest)

/-- The pieces of a segment. -/
def expandSegment : (fuel : Nat) → (splitting : Bool) → Segment → Eval (List Piece)
  | 0, _, _ => outOfFuel
  | _ + 1, _, .text quoted s => return [.text quoted s]
  | fuel + 1, splitting, .parameter quoted name modifier =>
    expandParameter fuel splitting quoted name modifier
  | fuel + 1, _, .command quoted script => return valuePieces quoted (← capture fuel script)
  | fuel + 1, _, .arithmetic quoted expression => do
    let text := textOf (← expand fuel false expression)
    match Arithmetic.read text with
    | .error flaw => abort (flaw.message text)
    | .ok e =>
      let bindings := (← get).bindings
      let lookup (x : String) : String := ((bindings.lookup x).bind Variable.value?).getD ""
      match (Arithmetic.eval lookup e).run [] with
      | .error flaw => abort (flaw.message text)
      | .ok (n, assignments) =>
        for (name, value) in assignments.reverse do
          assign name value
        return valuePieces quoted (toString n)

/-- The pieces of a parameter. -/
def expandParameter : (fuel : Nat) → (splitting quoted : Bool) → (name : String) → Modifier →
    Eval (List Piece)
  | 0, _, _, _, _ => outOfFuel
  | fuel + 1, splitting, quoted, name, modifier => do
    let isList := name = "@" || name = "*"
    let joined (splitting : Bool) : Eval String := do
      let separators? := (← valueOf? "IFS").map String.toList
      return (listSeparator splitting quoted (name = "*") separators?).intercalate (← get).arguments
    let value? ← if isList then some <$> joined splitting else parameter? name
    let whole : Eval (List Piece) := return listPieces quoted (value?.getD "")
    let requireSet : Eval Unit := do
      if value?.isNone && (← get).settings.refuseUnset then
        abort (name ++ ": parameter not set")
    match modifier with
    | .plain =>
      requireSet
      if name = "@" && quoted && (← get).arguments.isEmpty then return [] else whole
    | .length =>
      requireSet
      let value ← if isList then joined false else pure (value?.getD "")
      return valuePieces quoted (toString value.length)
    | .alternative kind orEmpty word =>
      let word ← if quoted then pure word else expandTilde false word
      let present := value?.any fun v => !orEmpty || v ≠ ""
      match kind, present with
      | .default, true => whole
      | .default, false => return alternativePieces quoted (← expand fuel splitting word)
      | .assign, true => whole
      | .assign, false =>
        let text := textOf (← expand fuel false word)
        if !isName name then abort (name ++ ": bad variable name")
        assign name text
        return valuePieces quoted text
      | .complain, true => whole
      | .complain, false =>
        let text := textOf (← expand fuel false word)
        let silence := if orEmpty then "parameter not set or null" else "parameter not set"
        abort (name ++ ": " ++ if text = "" then silence else text)
      | .replace, true => return alternativePieces quoted (← expand fuel splitting word)
      | .replace, false => return if quoted then [.text true ""] else []
    | .trim how word =>
      requireSet
      let pattern := patternOf (← expand fuel false (← expandTilde false word))
      return listPieces quoted
        (.ofList (trimValue how.fromEnd how.longest pattern (value?.getD "").toList))
    | .meaningless => abort "Bad substitution"

/-- The text of a word that is not split. -/
def expandText : (fuel : Nat) → (assigned : Bool) → Word → Eval String
  | 0, _, _ => outOfFuel
  | fuel + 1, assigned, word => do
    return textOf (← expand fuel false (← expandTilde assigned word))

/-- The fields of one word. -/
def expandWord : (fuel : Nat) → Word → Eval (List String)
  | 0, _ => outOfFuel
  | fuel + 1, word => do
    let pieces ← expand fuel true (← expandTilde false word)
    let fields := fieldsOf (← separators) pieces
    if (← get).settings.keepPatterns then return fields.map unmarked
    let (files, cwd) ← task Task.place
    return fields.flatMap (expandPath files cwd)

/-- The fields of words; `assigning` tells that words such as `name=value` are taken as assignments,
which are not split. -/
def expandFields : (fuel : Nat) → (assigning : Bool) → List Word → Eval (List String)
  | 0, _, _ => outOfFuel
  | _ + 1, _, [] => return []
  | fuel + 1, assigning, word :: rest => do
    let fields ← match if assigning then Parser.assignmentIn? word else none with
      | some (name, value) => do pure [name ++ "=" ++ (← expandText fuel true value)]
      | none => expandWord fuel word
    return fields ++ (← expandFields fuel assigning rest)

/-- The fields of a command, after those that are known already. Some commands take assignments as
arguments, so the name of the command decides how the words after it are expanded. -/
def expandCommand : (fuel : Nat) → (known : List String) → List Word → Eval (List String)
  | 0, _, _ => outOfFuel
  | _ + 1, known, [] => return known
  | fuel + 1, known, word :: rest => do
    let resolved ← resolveHere known
    match resolved.fields with
    | [] => expandCommand fuel (known ++ (← expandWord fuel word)) rest
    | name :: _ =>
      if name = "command" then expandCommand fuel (known ++ (← expandWord fuel word)) rest
      else
        let isFunction := !resolved.direct && ((← get).functions.lookup name).isSome
        let assigning := Builtin.assigningNames.contains name && !isFunction
        return known ++ (← expandFields fuel assigning (word :: rest))

/-- The output of a script, without the newlines at its end. -/
def capture : (fuel : Nat) → Command → Eval String
  | 0, _ => outOfFuel
  | fuel + 1, script => do
    let base ← descriptors
    let (reader, writer) ← newPipe
    call (Call.setDescriptors (holding base [writer]))
    let pid ← fork do
      call (Call.setDescriptors (Call.redirectTo base 1 writer))
      asCopy
      ending fuel (run fuel { final := true } script)
    let table := holding base [reader]
    call (Call.setDescriptors table)
    let text := (← task (Task.readAll ((table.head?.map Prod.fst).getD 0))).toOption.getD ""
    call (Call.setDescriptors base)
    let status ← waitForeground [pid]
    modify fun s => { s with substituted := some status }
    return dropNewlines (.ofList (text.toList.filter (· ≠ Char.ofNat 0)))

/-- What redirections name; a document names nothing. -/
def expandTargets : (fuel : Nat) → List Redirect → Eval (List (Redirect × String))
  | 0, _ => outOfFuel
  | _ + 1, [] => return []
  | fuel + 1, redirect :: rest => do
    let text ← match redirect with
      | .document _ _ => pure ""
      | .file _ operator target => do
        let text ← expandText fuel false target
        checkTarget operator text
        pure text
    return (redirect, text) :: (← expandTargets fuel rest)

/-- The descriptor table after redirections to what they name. When one of them cannot be carried out,
the complaint about it goes where the ones before it lead. -/
def redirectEach : (fuel : Nat) → (table : List (Nat × Nat)) → List (Redirect × String) →
    Eval (Option (List (Nat × Nat)))
  | 0, _, _ => outOfFuel
  | _ + 1, table, [] => return some table
  | fuel + 1, table, (.document fd body, _) :: rest => do
    let id ← supply (textOf (← expand fuel false body))
    redirectEach fuel (Call.redirectTo table fd id) rest
  | fuel + 1, table, (.file fd operator _, text) :: rest => do
    match ← applyRedirect table fd operator text with
    | .ok table => redirectEach fuel table rest
    | .error e =>
      withDescriptors table (complain e)
      return none

/-- The descriptor table after redirections; there is none after a complaint. -/
def redirectAll : (fuel : Nat) → List Redirect → Eval (Option (List (Nat × Nat)))
  | 0, _ => outOfFuel
  | fuel + 1, redirects => do
    let targets ← expandTargets fuel redirects
    redirectEach fuel (← descriptors) targets

/-- Show a command before it is run, if the shell is asked to. -/
def trace : (fuel : Nat) → List String → Eval Unit
  | 0, _ => outOfFuel
  | fuel + 1, words => do
    if (← get).settings.traced && !words.isEmpty then
      let lead := (← valueOf? "PS4").getD ""
      let lead ← match readExpandable? lead with
        | some word => do pure (textOf (← expand fuel false word))
        | none => pure lead
      task (Task.remark (lead ++ " ".intercalate words))

/-- Carry out assignments, each marked as exported or not: the assignments as texts. -/
def assignAll : (fuel : Nat) → (exported : Bool) → List (String × Word) → Eval (List String)
  | 0, _, _ => outOfFuel
  | _ + 1, _, [] => return []
  | fuel + 1, exported, (name, word) :: rest => do
    let value ← expandText fuel true word
    assign name value
    if exported then markVariable name fun v => { v with exported := true }
    return (name ++ "=" ++ value) :: (← assignAll fuel exported rest)

/-- Run a command, and act on signals after it. In a place that is not tested, a failure may leave
the shell. -/
def run : (fuel : Nat) → Mode → Command → Eval Unit
  | 0, _, _ => outOfFuel
  | fuel + 1, mode, command => do
    if (← get).settings.readOnly then return
    let counts ← runCommand fuel mode command
    actOnSignals fuel
    let s ← get
    if counts && s.status ≠ 0 && !mode.tested && s.settings.exitOnError then throw (.exit s.status)

/-- Run a command: whether its failure counts, which that of a compound command does not. -/
def runCommand : (fuel : Nat) → Mode → Command → Eval Bool
  | 0, _, _ => outOfFuel
  | fuel + 1, mode, command => do
    match command with
    | .simple line assignments words redirects =>
      modify fun s => { s with line, tested := mode.tested, substituted := none }
      setStatus (← runSimple fuel mode assignments words redirects)
      return true
    | .pipeline negated [single] =>
      run fuel { tested := mode.tested || negated } single
      if negated then setStatus (if (← get).status = 0 then 1 else 0)
      return false
    | .pipeline negated stages =>
      let base ← descriptors
      let pids ← startStages fuel false mode.tested base none stages
      call (Call.setDescriptors base)
      let status ← waitForeground pids
      setStatus (if negated then (if status = 0 then 1 else 0) else status)
      return !negated
    | .both first second =>
      run fuel { tested := true } first
      if (← get).status = 0 then run fuel mode second
      return false
    | .either first second =>
      run fuel { tested := true } first
      if (← get).status ≠ 0 then run fuel mode second
      return false
    | .sequence commands =>
      runAll fuel mode commands
      return false
    | .background body =>
      let stages := match body with
        | .pipeline false stages => stages
        | single => [single]
      let base ← descriptors
      let pids ← startStages fuel true false base none stages
      call (Call.setDescriptors base)
      addJob pids
      setStatus 0
      return false
    | .subshell body =>
      let child := ending fuel (run fuel { mode with final := true } body)
      if mode.final && !(← hasTraps) then
        asCopy
        throw (.exit (← child))
      setStatus (← inSubshell child)
      return true
    | .redirected body redirects =>
      match ← redirectAll fuel redirects with
      | some table =>
        withDescriptors table (run fuel { tested := mode.tested } body)
        return false
      | none =>
        setStatus 2
        return true
    | .placed line body =>
      modify fun s => { s with line }
      runCommand fuel mode body
    | .conditional test body otherwise =>
      run fuel { tested := true } test
      if (← get).status = 0 then run fuel mode body
      else
        match otherwise with
        | some other => run fuel mode other
        | none => setStatus 0
      return false
    | .loop negated test body =>
      setStatus (← inLoop (runLoop fuel mode.tested negated test body 0))
      return false
    | .forEach name words body =>
      let values ← match words with
        | some words => expandFields fuel false words
        | none => do pure (← get).arguments
      if values.isEmpty then setStatus 0
      else inLoop (runEach fuel mode.tested name body values)
      return false
    | .choose subject cases =>
      let text ← expandText fuel false subject
      runCase fuel mode text.toList cases
      return false
    | .function name body =>
      modify fun s => { s with functions := (name, body) :: s.functions.filter (·.1 != name) }
      setStatus 0
      return false

/-- Run commands one after another. -/
def runAll : (fuel : Nat) → Mode → List Command → Eval Unit
  | 0, _, _ => outOfFuel
  | _ + 1, _, [] => return
  | fuel + 1, mode, [command] => run fuel mode command
  | fuel + 1, mode, command :: rest => do
    run fuel { tested := mode.tested } command
    runAll fuel mode rest

/-- Start the stages of a pipeline, the first of them on an input: their processes. The shell holds
the ends of a pipe until the processes that use it have been started. -/
def startStages : (fuel : Nat) → (background tested : Bool) → (base : List (Nat × Nat)) →
    (input : Option Nat) → List Command → Eval (List Nat)
  | 0, _, _, _, _, _ => outOfFuel
  | _ + 1, _, _, _, _, [] => return []
  | fuel + 1, background, tested, base, input, stage :: rest => do
    let table := input.elim base (Call.redirectTo base 0)
    let pipe? ← if rest.isEmpty then pure none else do pure (some (← newPipe))
    let table := pipe?.elim table fun p => Call.redirectTo table 1 p.2
    call (Call.setDescriptors (holding base (input.toList ++ (pipe?.elim [] fun p => [p.1, p.2]))))
    let pid ← fork do
      call (Call.setDescriptors table)
      asCopy
      if background then
        call (Builtin.setSignal 2 (some ""))
        call (Builtin.setSignal 3 (some ""))
        if input.isNone then
          call (Call.setDescriptors (← withNullInput table))
      ending fuel (run fuel { tested, final := true } stage)
    let pids ← startStages fuel background tested base (pipe?.map Prod.fst) rest
    return pid :: pids

/-- Run the turns of a loop: the status of the last one. -/
def runLoop : (fuel : Nat) → (tested negated : Bool) → (test body : Command) → (last : Nat) → Eval Nat
  | 0, _, _, _, _, _ => outOfFuel
  | fuel + 1, tested, negated, test, body, last => do
    match ← turn (run fuel { tested := true } test) with
    | .over => return last
    | .again => runLoop fuel tested negated test body last
    | .next =>
      if ((← get).status = 0) = negated then return last
      match ← turn (run fuel { tested } body) with
      | .over => return (← get).status
      | _ => runLoop fuel tested negated test body (← get).status

/-- Run a body for every value of a variable. -/
def runEach : (fuel : Nat) → (tested : Bool) → (name : String) → (body : Command) → List String →
    Eval Unit
  | 0, _, _, _, _ => outOfFuel
  | _ + 1, _, _, _, [] => return
  | fuel + 1, tested, name, body, value :: rest => do
    assign name value
    if (← turn (run fuel { tested } body)) ≠ .over then runEach fuel tested name body rest

/-- Run the first case that has a pattern for a text. -/
def runCase : (fuel : Nat) → Mode → (text : List Char) → List (List Word × Command) → Eval Unit
  | 0, _, _, _ => outOfFuel
  | _ + 1, _, _, [] => setStatus 0
  | fuel + 1, mode, text, (patterns, body) :: rest => do
    if ← matchesAny fuel text patterns then
      match body with
      | .sequence [] => setStatus 0
      | body => run fuel mode body
    else runCase fuel mode text rest

/-- Whether one of the patterns matches a text. -/
def matchesAny : (fuel : Nat) → (text : List Char) → List Word → Eval Bool
  | 0, _, _ => outOfFuel
  | _ + 1, _, [] => return false
  | fuel + 1, text, word :: rest => do
    let pattern := patternOf (← expand fuel false (← expandTilde false word))
    if matchesPattern pattern text then return true else matchesAny fuel text rest

/-- Run a simple command: its status. -/
def runSimple : (fuel : Nat) → Mode → List (String × Word) → List Word → List Redirect → Eval Nat
  | 0, _, _, _, _ => outOfFuel
  | fuel + 1, mode, assignments, words, redirects => do
    task (Task.pause 5)
    let fields ← expandCommand fuel [] words
    let table? ← redirectAll fuel redirects
    let resolved ← resolveHere fields
    match resolved.fields, table? with
    | [], none => return 2
    | [], some _ =>
      trace fuel (← assignAll fuel false assignments)
      return (← get).substituted.getD 0
    | name :: _, none =>
      if !resolved.direct && specialCommands.contains name then throw (.fault 2)
      return 2
    | "exec" :: args, some table =>
      trace fuel ((← assignAll fuel false assignments) ++ fields)
      match args with
      | [] =>
        call (Call.setDescriptors table)
        return 0
      | name :: args => withDescriptors table (asCommand "exec" do
          for (x, _) in assignments do
            markVariable x fun v => { v with exported := true }
          match ← locateHere false name with
          | .program path =>
            if isTooLong (← environment) (name :: args) then
              complain (name ++ ": Argument list too long")
              throw (.exit 126)
            replaceBy path name args
          | .missing =>
            complain (name ++ ": not found")
            throw (.exit 127)
          | .denied =>
            complain (name ++ ": Permission denied")
            throw (.exit 126))
    | name :: _, some table =>
      if !resolved.direct && specialCommands.contains name then
        trace fuel ((← assignAll fuel false assignments) ++ fields)
        withDescriptors table (invoke fuel { tested := mode.tested } resolved)
      else
        let names := assignments.map Prod.fst
        let before := (← get).bindings.filter fun v => names.contains v.1
        trace fuel ((← assignAll fuel true assignments) ++ fields)
        let outcome ← attempt (withDescriptors table (invoke fuel mode resolved))
        if !names.isEmpty then
          modify fun s => { s with
            bindings := before ++ s.bindings.filter fun v => !names.contains v.1 }
        match outcome with
        | .ok status => return status
        | .error stop => throw stop

/-- Run a command by its name: as a command of the shell, a function unless they are left out, or a
program. -/
def invoke : (fuel : Nat) → Mode → Resolved → Eval Nat
  | 0, _, _ => outOfFuel
  | fuel + 1, mode, resolved => do
    match resolved.fields with
    | [] => return 0
    | name :: args =>
      let guarded (body : Eval Nat) : Eval Nat := if resolved.direct then catchFault body else body
      if let some special := Builtin.special.lookup name then
        guarded (asCommand name (Builtin.refusable (special args)))
      else if name = "eval" then guarded (asCommand name do
        let s ← get
        let text := " ".intercalate args
        let ran ← runInput fuel { tested := s.tested } (.ofText text s.line)
        if ran then return (← get).status else return 0)
      else if name = "." then guarded (asCommand name do
        match ← Builtin.operandsOf args with
        | [] => return 0
        | path :: _ => runFile fuel path)
      else
        let known := (← get).functions
        match if resolved.direct then none else known.lookup name with
        | some body => runFunction fuel body args
        | none =>
          match name with
          | "command" => catchFault (asCommand name (tellAbout args))
          | "hash" => catchFault (asCommand name (hash args))
          | "type" => tellMeanings false args
          | _ =>
            match Builtin.regular.lookup name with
            | some regular => catchFault (asCommand name (regular args))
            | none => runProgram mode resolved.standard name args

/-- Run the script in a file, which is looked for along `PATH` unless its path holds a slash. -/
def runFile : (fuel : Nat) → (path : String) → Eval Nat
  | 0, _ => outOfFuel
  | fuel + 1, path => do
    let candidates := Located.candidates ((← valueOf? "PATH").getD "") path
    let isReadable (c : String) : Eval Bool := do
      return (← task (Task.node? c)).any fun n => !n.isDirectory
    match ← candidates.filterM isReadable with
    | [] =>
      if !path.toList.contains '/' then abort (path ++ ": not found")
      match ← task (Task.slurp path) with
      | .ok _ => return 0
      | .error .isDirectory => return 0
      | .error e => abort ("cannot open " ++ path ++ ": " ++ openWording false e)
    | found :: _ =>
      match ← task (Task.openPath found .read) with
      | .error e => abort ("cannot open " ++ found ++ ": " ++ openWording false e)
      | .ok fd =>
        setStatus 0
        let outcome ← attempt (asCommand found (runInput fuel {} (.ofSource fd)))
        task (Task.close fd)
        match outcome with
        | .ok _ => return (← get).status
        | .error (.back status) => return status
        | .error stop => throw stop

/-- Run the body of a function on arguments; its local variables get their old values back. -/
def runFunction : (fuel : Nat) → (body : Command) → (args : List String) → Eval Nat
  | 0, _, _ => outOfFuel
  | fuel + 1, body, args => do
    let outer ← get
    set { outer with
      arguments := args, loops := 0, locals? := some [], localSettings := none, optionPlace := (1, 0) }
    let outcome ← attempt (run fuel { tested := outer.tested } body)
    modify fun s => { s with
      arguments := outer.arguments, loops := outer.loops, locals? := outer.locals?
      settings := s.localSettings.getD s.settings, localSettings := outer.localSettings
      optionPlace := outer.optionPlace
      bindings := (s.locals?.getD []).foldl restoreVariable s.bindings }
    match outcome with
    | .ok () => return (← get).status
    | .error (.back status) => return status
    | .error stop => throw stop

/-- Act on the signals that came, in order of their numbers. The status stays what it was, unless an
action leaves the shell. -/
def actOnSignals : (fuel : Nat) → Eval Unit
  | 0 => outOfFuel
  | fuel + 1 => do
    let take : Call (Option Nat) := do
      match (← Call.self).arrived.mergeSort with
      | [] => return none
      | n :: rest =>
        Call.modifySelf fun p => { p with arrived := rest }
        return some n
    match ← call take with
    | none => return
    | some n =>
      let s ← get
      match s.traps.lookup n with
      | none => actOnSignals fuel
      | some action =>
        let outer := s.outerStatus
        let status := outer.getD s.status
        set { s with outerStatus := some status }
        let _ ← runInput fuel {} (.ofText action 1)
        modify fun s => { s with status, outerStatus := outer }
        actOnSignals fuel

/-- Run the lines of a script: whether any of them held a command. A mistake in the syntax leaves the
shell. -/
def runInput : (fuel : Nat) → Mode → Input → Eval Bool
  | 0, _, _ => outOfFuel
  | fuel + 1, mode, input => do
    let showRead (line : Nat) (i : Input) : Eval Input := do
      let (text, i) := i.justRead line
      if (← get).settings.verbose && text ≠ "" then
        let _ ← task (Task.write 2 text)
      return i
    let input := { input with aliases := (← get).aliases }
    let parsed := input.next?
    if input.isCutOff parsed then
      match ← task (Task.readChunk (input.source.getD 0) 8192) with
      | .ok "" => return ← runInput fuel mode { input with source := none }
      | .ok text => return ← runInput fuel mode (input.extend text)
      | .error _ => return ← runInput fuel mode { input with source := none }
    match parsed with
    | .error e =>
      let _ ← showRead e.line input
      modify fun s => { s with line := e.line }
      abort e.message
    | .ok none =>
      let _ ← showRead (input.seen + input.unseen.length) input
      return false
    | .ok (some (.sequence [], rest)) => runInput fuel mode (← showRead (rest.line - 1) rest)
    | .ok (some (command, rest)) =>
      let rest ← showRead (rest.line - 1) rest
      modify fun s => { s with readTo := rest.line }
      run fuel { mode with final := mode.final && rest.length = 0 } command
      let _ ← runInput fuel mode rest
      return true

/-- Run something to its end and then the action set for the end of the shell: the status. -/
def ending : (fuel : Nat) → Eval Unit → Eval Nat
  | 0, _ => outOfFuel
  | fuel + 1, body => do
    let status ← match ← attempt body with
      | .ok () => do pure (← get).status
      | .error (.exit n) => pure n
      | .error (.fault n) => pure n
      | .error (.back n) => pure n
      | .error _ => do pure (← get).status
    match (← get).traps.lookup 0 with
    | none => return status
    | some action =>
      modify fun s => { s with
        traps := s.traps.filter (·.1 != 0), status, outerStatus := some status }
      match ← attempt (runInput fuel {} (.ofText action 1)) with
      | .error (.exit n) => return n
      | .error (.fault n) => return n
      | _ => return status

end

end CommandSpec.Shell
