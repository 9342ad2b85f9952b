import CommandSpec.Shell.Builtin.Control
import CommandSpec.Shell.Builtin.Flags

/-!
# Commands about variables, functions and aliases

`export`, `readonly`, `local`, `unset`, `alias` and `unalias`.
-/

namespace CommandSpec.Shell.Builtin

open Eval

/-- A text in quotes: single quotes in it stand in double ones, everything else in single ones. The
text is cut into runs of quotes and of other characters; `fuel` bounds their number. -/
def quotedRuns : (fuel : Nat) → List Char → List Char
  | 0, _ => []
  | fuel + 1, cs =>
    let plain := cs.takeWhile (· ≠ '\x27')
    let rest := cs.drop plain.length
    let quotes := rest.takeWhile (· = '\x27')
    let after := rest.drop quotes.length
    let first := '\x27' :: plain ++ ['\x27']
    if quotes.isEmpty then first
    else
      let both := first ++ '\x22' :: quotes ++ ['\x22']
      if after.isEmpty then both else both ++ quotedRuns fuel after

/-- A text in quotes that a shell reads back. -/
def singleQuoted (s : String) : String :=
  .ofList (quotedRuns (s.length + 1) s.toList)

/-- Split `name=value` at its first `=`. -/
def splitAssignment (s : String) : String × Option String :=
  let name := s.toList.takeWhile (· ≠ '=')
  if name.length = s.length then (s, none)
  else (.ofList name, some (.ofList (s.toList.drop (name.length + 1))))

/-- The name in an assignment or alone, and the value; a bad name leaves the shell. -/
def readAssignment (arg : String) : Eval (String × Option String) := do
  let (name, value?) := splitAssignment arg
  if !isName name then abort (name ++ ": bad variable name")
  return (name, value?)

/-- Assign and mark variables. -/
def mark (f : Variable → Variable) : List String → Eval Nat
  | [] => return 0
  | arg :: rest => do
    let (name, value?) ← readAssignment arg
    if let some value := value? then assign name value
    markVariable name f
    mark f rest

/-- Show variables in order of their names, each after a word. -/
def showVariables (lead : String) (wanted : Variable → Bool) : Eval Nat := do
  let shown := (← get).bindings.filter fun v => wanted v.2
  for (name, v) in shown.mergeSort fun a b => a.1 ≤ b.1 do
    task (Task.printLine (lead ++ name ++ v.value?.elim "" fun value => "=" ++ singleQuoted value))
  return 0

/-- Mark variables, or show those that are marked when none are named. -/
def markOrShow (word : String) (wanted : Variable → Bool) (f : Variable → Variable)
    (args : List String) : Eval Nat := do
  let (flags, names) ← flagsOf "p" args
  if names.isEmpty || !flags.isEmpty then showVariables (word ++ " ") wanted else mark f names

/-- Give variables to programs: `export name[=value]…`. -/
def markExported : List String → Eval Nat :=
  markOrShow "export" Variable.exported fun v => { v with exported := true }

/-- Fix the values of variables: `readonly name[=value]…`. -/
def markReadOnly : List String → Eval Nat :=
  markOrShow "readonly" Variable.readOnly fun v => { v with readOnly := true }

/-- Make variables local, `local name[=value]…`: they get their old values back when the function
ends. The name `-` stands for the options of the shell. -/
def makeLocal : List String → Eval Nat
  | [] => return 0
  | arg :: rest => do
    let s ← get
    match s.locals? with
    | none => abort "not in a function"
    | some locals =>
      if arg = "-" then
        set { s with localSettings := s.localSettings.or (some s.settings) }
        return (← makeLocal rest)
      let (name, value?) ← readAssignment arg
      set { s with locals? := some ((name, s.bindings.lookup name) :: locals) }
      if let some value := value? then assign name value
      makeLocal rest

/-- Take variables or functions away: `unset [-fv] name…`. -/
def unset (args : List String) : Eval Nat := do
  let (flags, names) ← flagsOf "vf" args
  if flags.getLast? = some 'f' then
    modify fun s => { s with functions := s.functions.filter (!names.contains ·.1) }
  else
    for name in names do
      if !isName name then abort (name ++ ": bad variable name")
      bindVariable name none
  return 0

/-! ## Aliases -/

/-- An alias as it is shown. -/
def shownAlias (a : String × String) : String :=
  a.1 ++ "=" ++ singleQuoted a.2

/-- Set or show aliases. -/
def setAliases : List String → Eval Nat
  | [] => return 0
  | arg :: rest => do
    let ok ← match splitAssignment arg with
      | (name, some value) =>
        if name = "" then
          task (Task.remark ("alias: " ++ arg ++ " not found"))
          pure false
        else
          modify fun s => { s with
            aliases := (name, value) :: s.aliases.filter (·.1 != name) }
          pure true
      | (name, none) =>
        match (← get).aliases.lookup name with
        | some value =>
          task (Task.printLine (shownAlias (name, value)))
          pure true
        | none =>
          task (Task.remark ("alias: " ++ name ++ " not found"))
          pure false
    let status ← setAliases rest
    return if ok then status else 1

/-- Let names stand for other texts, or show what they stand for: `alias [name[=text]…]`. -/
def aliasOrShow (args : List String) : Eval Nat := do
  if args.isEmpty then
    for a in (← get).aliases.mergeSort fun a b => a.1 ≤ b.1 do
      task (Task.printLine (shownAlias a))
    return 0
  else setAliases args

/-- Take aliases away. -/
def removeAliases : List String → Eval Nat
  | [] => return 0
  | name :: rest => do
    let known := ((← get).aliases.lookup name).isSome
    if !known then task (Task.remark ("unalias: " ++ name ++ " not found"))
    modify fun s => { s with aliases := s.aliases.filter (·.1 != name) }
    let status ← removeAliases rest
    return if known then status else 1

/-- Take aliases away: `unalias -a` or `unalias name…`. -/
def unalias (args : List String) : Eval Nat := do
  let (flags, names) ← flagsOf "a" args
  if flags.isEmpty then removeAliases names
  else
    modify fun s => { s with aliases := [] }
    return 0

end CommandSpec.Shell.Builtin
