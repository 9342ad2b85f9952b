import CommandSpec.Utility.Finding.Search

/-!
# `find`

`find` goes through directories and tells of what is in them, or does something with it.
-/

namespace CommandSpec.Utility

namespace Finding

/-- The options before the places where a search starts, and what follows them. -/
def readSight : Settings → List String → Settings × List String
  | s, [] => (s, [])
  | s, arg :: rest =>
    match arg with
    | "-P" => readSight { s with followsAll := false, followsStarts := false } rest
    | "-H" => readSight { s with followsAll := false, followsStarts := true } rest
    | "-L" => readSight { s with followsAll := true, followsStarts := true } rest
    | "-D" => readSight s (rest.drop 1)
    | "--" => (s, rest)
    | _ => if ['-', 'O'].isPrefixOf arg.toList then readSight s rest else (s, arg :: rest)
termination_by _ args => args.length

/-- Open the files that actions write to. -/
def openOutputs : List String → Task (Except String (List (String × Nat)))
  | [] => return .ok []
  | path :: rest => do
    match ← openOutputs rest with
    | .error e => return .error e
    | .ok opened =>
      if (opened.lookup path).isSome then return .ok opened
      match ← Task.openPath path .write with
      | .ok fd => return .ok ((path, fd) :: opened)
      | .error e => return .error (inQuotes path ++ ": " ++ e.wording)

end Finding

open Finding in
/-- Search directories: `find [-HLP] [start…] [expression]`. -/
def find (args : List String) : Task Nat := do
  let (settings, args) := readSight {} args
  let rec startsOf (isFirst : Bool) : List String → List String
    | [] => []
    | arg :: rest => if isExpression isFirst arg then [] else arg :: startsOf false rest
  let starts := startsOf true args
  let given := args.drop starts.length
  if given.any fun arg => arg = "--version" || arg = "-version" then
    Task.printLine ((← read).speaker ++ " (GNU findutils) 4.9.0")
    return 0
  if given.any fun arg => arg = "--help" || arg = "-help" then
    Task.printLine ("Usage: " ++ (← read).speaker ++ " [-H] [-L] [-P] [-Olevel] [-D debugopts] [path...] [expression]")
    return 0
  let (files, directory) ← Task.place
  let around : Surroundings := { files, directory, followsStarts := settings.followsStarts }
  match readArguments around (given.length + 1) { settings } given with
  | .error complaint => failWith 1 complaint
  | .ok s =>
    s.warnings.forM fun w => Task.complain w
    match expressionOf s with
    | .error complaint => failWith 1 complaint
    | .ok expression =>
      match ← openOutputs s.settings.outputs with
      | .error complaint => failWith 1 complaint
      | .ok outputs =>
        let status ← { settings := s.settings, expression, outputs : Search }.run (if starts.isEmpty then ["."] else starts)
        giveBack
        return status

end CommandSpec.Utility
