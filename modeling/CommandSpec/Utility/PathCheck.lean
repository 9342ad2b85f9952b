import CommandSpec.Utility.Outcome

/-!
# `pathchk`

`pathchk` tells whether paths can be used: whether a file of that name could be there, or on request whether it
could be on every system.
-/

namespace CommandSpec.Utility

/-- The characters that names may have on every system. -/
def isPortable (c : Char) : Bool :=
  c.isAlphanum || "/._-".toList.contains c

/-- What is wrong with a path as it is written, if anything is. -/
def pathFault? (portable strict : Bool) (path : String) : Option String :=
  let names := path.splitOn "/"
  let bad? := path.toList.find? (!isPortable ·)
  let longest := names.find? fun n => n.length > 14
  if strict && names.any (·.toList.head? = some '-') then
    some ("leading '-' in a component of file name " ++ shellQuoted path)
  else if (portable || strict) && path = "" then some "empty file name"
  else if !portable then none
  else
    match bad?, longest with
    | some c, _ =>
      let shown := if isShowable c then c.toString else .ofList (escapeFor c)
      some ("non-portable character '" ++ shown ++ "' in file name " ++ shellQuoted path)
    | none, some name =>
      some ("limit 14 exceeded by length " ++ toString name.length ++ " of file name component " ++ shellQuoted name)
    | none, none =>
      if path.length ≥ 256 then
        some ("limit 255 exceeded by length " ++ toString path.length ++ " of file name " ++ shellQuoted path)
      else none

/-- Whether a path can be used. -/
def checkPath (portable strict : Bool) (path : String) : Task Bool := do
  match pathFault? portable strict path with
  | some complaint => refuse complaint
  | none =>
    if portable then return true
    match ← lookLink path with
    | .ok _ => return true
    | .error .noEntry =>
      if path = "" then refuse (forShell "" ++ ": " ++ OsError.noEntry.wording) else return true
    | .error e => refuse (forShell path ++ ": " ++ e.wording)

/-- Tell whether paths can be used: `pathchk [-pP] path…`. -/
def pathchk (args : List String) : Task Nat :=
  withOptions { flags := "pP", words := ["portability"] } args fun a => do
    if a.operands.isEmpty then return (← misuse "missing operand" 1)
    let isAll := a.has "portability"
    forOperands a.operands (checkPath (a.has "p" || isAll) (a.has "P" || isAll))

end CommandSpec.Utility
