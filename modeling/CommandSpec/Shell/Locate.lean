import CommandSpec.Machine.Locate
import CommandSpec.Shell.Builtin

/-!
# What the name of a command stands for

A name may be a reserved word, an alias, a function or a command that the shell carries out itself;
else it is looked for along `PATH`.
-/

namespace CommandSpec.Shell

open Eval

/-- The program that a name leads to in the current state, along the path of the shell or the standard
one. What was found along the first is remembered. -/
def locateHere (standard : Bool) (name : String) : Eval Located := do
  let (files, cwd) ← task Task.place
  if name.toList.contains '/' then return Located.ofPath files cwd name
  if standard then return Located.ofName files cwd Located.standardPath name
  match ← valueOf? "PATH" with
  | none => return .missing
  | some path =>
    let located := Located.ofName files cwd path name
    if let .program found := located then
      modify fun s => { s with
        tracked := if (s.tracked.lookup name).isSome then s.tracked else s.tracked ++ [(name, found)] }
    return located

/-- What the name of a command stands for. -/
inductive Meaning where
  | keyword
  | alias (text : String)
  | function
  | special
  | regular
  | program (path : String)
  /-- A program that was found before. -/
  | tracked (path : String)
  | unknown
  deriving DecidableEq, Repr

/-- The meaning of a name. -/
def meaning (standard : Bool) (name : String) : Eval Meaning := do
  let s ← get
  if Token.reservedWords.contains name then return .keyword
  if let some text := s.aliases.lookup name then return .alias text
  if specialCommands.contains name then return .special
  if (s.functions.lookup name).isSome then return .function
  if Builtin.regularNames.contains name then return .regular
  match ← locateHere standard name with
  | .program path =>
    return if !standard && (s.tracked.lookup name).isSome then .tracked path else .program path
  | _ => return .unknown

/-- Tell what runs under a name: the name itself, or the path of the program. -/
def tellName (standard : Bool) (name : String) : Eval Nat := do
  match ← meaning standard name with
  | .program path =>
    task (Task.printLine path)
    return 0
  | .tracked path =>
    task (Task.printLine path)
    return 0
  | .alias text =>
    task (Task.printLine ("alias " ++ Builtin.shownAlias (name, text)))
    return 0
  | .unknown => return 127
  | _ =>
    task (Task.printLine name)
    return 0

/-- Tell the meaning of names, one line each. -/
def tellMeanings (standard : Bool) : List String → Eval Nat
  | [] => return 0
  | name :: rest => do
    let meaning ← meaning standard name
    task (Task.printLine (name ++ match meaning with
      | .keyword => " is a shell keyword"
      | .alias text => " is an alias for " ++ text
      | .function => " is a shell function"
      | .special => " is a special shell builtin"
      | .regular => " is a shell builtin"
      | .program path => " is " ++ path
      | .tracked path => " is a tracked alias for " ++ path
      | .unknown => ": not found"))
    let status ← tellMeanings standard rest
    return if meaning = .unknown then 127 else status

/-- Tell what runs under a name, or its meaning: `command [-p] -v|-V name`. -/
def tellAbout (args : List String) : Eval Nat := do
  let (flags, names) ← Builtin.flagsOf "pvV" args
  let standard := flags.contains 'p'
  match names with
  | [] => return 0
  | name :: _ =>
    if flags.contains 'V' then tellMeanings standard [name]
    else if flags.contains 'v' then tellName standard name
    else return 0

/-- The place of a name in the table of programs that were found. -/
def bucket (name : String) : Nat :=
  let bytes := name.toList.map Char.toNat
  ((bytes.headD 0 * 16 + sumOf bytes) % 2 ^ 15) % 31

/-- Look for programs and remember where they are, forget all of them, or show them:
`hash [-r] [name…]`. -/
def hash (args : List String) : Eval Nat := do
  let (flags, names) ← Builtin.flagsOf "r" args
  if !flags.isEmpty then
    modify fun s => { s with tracked := [] }
    return 0
  if names.isEmpty then
    for (_, path) in (← get).tracked.mergeSort fun a b => bucket a.1 ≤ bucket b.1 do
      task (Task.printLine path)
  let mut status := 0
  for name in names do
    modify fun s => { s with tracked := s.tracked.filter (·.1 != name) }
    if !name.toList.contains '/' && (← meaning false name) = .unknown then
      complain (name ++ ": not found")
      status := 1
  return status

end CommandSpec.Shell
