import CommandSpec.Shell.Builtin.Jobs

/-!
# Options

`set` changes the options and arguments of a shell; `getopts` reads options from arguments one by one.
-/

namespace CommandSpec.Shell.Builtin

open Eval

/-- Turn an option on or off by its letter. -/
def setOption (on : Bool) (o : Settings) (letter : Char) : Settings :=
  match letter with
  | 'e' => { o with exitOnError := on }
  | 'u' => { o with refuseUnset := on }
  | 'f' => { o with keepPatterns := on }
  | 'x' => { o with traced := on }
  | 'v' => { o with verbose := on }
  | 'a' => { o with exportAll := on }
  | 'C' => { o with keepFiles := on }
  | 'n' => { o with readOnly := on }
  | _ => { o with idle := o.idle.filter (· ≠ letter) ++ if on then [letter] else [] }

/-- The options with long names and their letters. -/
def longOptions : List (String × Char) :=
  [ ("errexit", 'e'), ("noglob", 'f'), ("ignoreeof", 'I'), ("interactive", 'i'), ("monitor", 'm'),
    ("noexec", 'n'), ("stdin", 's'), ("xtrace", 'x'), ("verbose", 'v'), ("vi", 'V'), ("emacs", 'E'),
    ("noclobber", 'C'), ("allexport", 'a'), ("notify", 'b'), ("nounset", 'u'), ("privileged", 'p'),
    ("nolog", 'L'), ("debug", 'D') ]

/-- The option letters that are known. -/
def knownLetters : List Char :=
  ((longOptions.map Prod.snd).filter fun c => c ≠ 'L' && c ≠ 'D')

/-- What options at the head of arguments come to. -/
structure SettingsRequest where
  settings : Settings
  /-- The letters that stand for something else than a setting. -/
  others : List Char := []
  /-- The options shown on the way: as they were then, as commands or as a table. -/
  shown : List (Settings × Bool) := []
  /-- The arguments, if any are given. -/
  arguments : Option (List String) := none
  /-- The first mistake, which ends the reading. -/
  mistake : Option String := none
  deriving Inhabited

/-- Turn options on or off by their letters, up to a letter that is not known. -/
def setLetters (extra : List Char) (on : Bool) (r : SettingsRequest) : List Char → SettingsRequest
  | [] => r
  | c :: cs =>
    if extra.contains c then setLetters extra on { r with others := c :: r.others } cs
    else if knownLetters.contains c then
      setLetters extra on { r with settings := setOption on r.settings c } cs
    else { r with mistake := some ("-" ++ c.toString) }

/-- Read the options at the head of arguments; the letters in `extra` stand for something else. `--`
ends them and gives all arguments, even if there are none. So does a sign alone, which turns tracing
off unless a shell is called with it. -/
def readSettings (extra : List Char) (before : SettingsRequest) : List String → SettingsRequest
  | [] => before
  | "--" :: rest => { before with arguments := some rest }
  | "-" :: rest =>
    let silent : Settings := { before.settings with traced := false, verbose := false }
    { before with
      settings := if extra.isEmpty then silent else before.settings
      arguments := if rest.isEmpty then none else some rest }
  | arg :: rest =>
    let letters (on : Bool) (cs : List Char) : SettingsRequest :=
      let plain := cs.takeWhile (· ≠ 'o')
      let after := setLetters extra on before plain
      if after.mistake.isSome then after
      else
        match cs.drop plain.length with
        | [] => readSettings extra after rest
        | _ :: more =>
          match rest with
          | [] => setLetters extra on { after with shown := after.shown ++ [(after.settings, !on)] } more
          | name :: rest =>
            match longOptions.lookup name with
            | none => { after with mistake := some ("-o " ++ name) }
            | some letter =>
              let named := { after with settings := setOption on after.settings letter }
              let last := setLetters extra on named more
              if last.mistake.isSome then last else readSettings extra last rest
    match arg.toList with
    | '-' :: cs => letters true cs
    | '+' :: cs => letters false cs
    | _ => { before with arguments := some (arg :: rest) }

/-- What a shell says when it is to control jobs. -/
def noTerminal : String :=
  "can't access tty; job control turned off"

/-- Show all options, as commands or as a table. -/
def showSettings (settings : Settings) (asCommands : Bool) : Eval Unit := do
  if !asCommands then task (Task.printLine "Current option settings")
  for (name, letter) in longOptions do
    let on := settings.has letter
    task (Task.printLine (if asCommands then (if on then "set -o " else "set +o ") ++ name
      else padded 16 name ++ if on then "on" else "off"))

/-- Change options and arguments, `set [options] [--] [argument…]`, or show all variables. -/
def setOptions (args : List String) : Eval Nat := do
  if args.isEmpty then return (← showVariables "" fun v => v.value?.isSome)
  let before := (← get).settings
  let request := readSettings [] { settings := before } args
  for (settings, asCommands) in request.shown do
    showSettings settings asCommands
  if let some mistake := request.mistake then
    modify fun s => { s with settings := request.settings }
    abort ("Illegal option " ++ mistake)
  let settings ← if request.settings.has 'm' && !before.has 'm' then do
    complain noTerminal
    pure (setOption false request.settings 'm')
  else pure request.settings
  modify fun s => { s with
    settings, arguments := request.arguments.getD s.arguments
    optionPlace := if request.arguments.isSome then (1, 0) else s.optionPlace }
  return 0

/-- What `getopts` finds at a place in the arguments. -/
inductive FoundOption where
  /-- The options are over. -/
  | over
  | letter (c : Char) (value : Option String)
  | unknown (c : Char)
  | withoutValue (c : Char)
  deriving DecidableEq, Repr

/-- The option at a place in the arguments, and the place after it. -/
def findOption (known : List Char) (args : List String) (place : Nat × Nat) :
    FoundOption × (Nat × Nat) :=
  let word (k : Nat) : List Char := ((args[k - 1]?).getD "").toList
  let (index, offset) := if 1 ≤ place.1 && place.1 ≤ args.length + 1 then place else (1, 0)
  let current := if offset = 0 then [] else (word (index - 1)).drop offset
  let next := word index
  if current.isEmpty && (next.length < 2 || next.head? ≠ some '-') then (.over, (index, 0))
  else if current.isEmpty && next = ['-', '-'] then (.over, (index + 1, 0))
  else
    let index := if current.isEmpty then index + 1 else index
    let rest := if current.isEmpty then next.drop 1 else current
    let letter := rest.headD '?'
    let more := rest.drop 1
    let after := (index, (word (index - 1)).length - more.length)
    let takesValue := ((known.dropWhile (· ≠ letter)).drop 1).head? = some ':'
    if letter = ':' || !known.contains letter then (.unknown letter, after)
    else if !takesValue then (.letter letter none, after)
    else if !more.isEmpty then (.letter letter (some (.ofList more)), (index, 0))
    else
      match args[index - 1]? with
      | some value => (.letter letter (some value), (index + 1, 0))
      | none => (.withoutValue letter, (index, 0))

/-- Read the next option from arguments: `getopts options name [argument…]`. -/
def getOptions (args : List String) : Eval Nat := do
  match args with
  | known :: name :: given =>
    if !isName name then abort (name ++ ": bad variable name")
    let s ← get
    let silent := known.toList.head? = some ':'
    let (found, place) :=
      findOption known.toList (if given.isEmpty then s.arguments else given) s.optionPlace
    assign "OPTIND" (toString place.1)
    modify fun s => { s with optionPlace := place }
    match found with
    | .over =>
      assign name "?"
      return 1
    | .letter c value =>
      assign "OPTARG" (value.getD "")
      assign name c.toString
    | .unknown c =>
      if silent then assign "OPTARG" c.toString else bindVariable "OPTARG" none
      assign name "?"
      if !silent then task (Task.remark ("Illegal option -" ++ c.toString))
    | .withoutValue c =>
      if silent then assign "OPTARG" c.toString else bindVariable "OPTARG" none
      assign name (if silent then ":" else "?")
      if !silent then task (Task.remark ("No arg for -" ++ c.toString ++ " option"))
    return 0
  | _ => abort "Usage: getopts optstring var [arg...]"

end CommandSpec.Shell.Builtin
