import CommandSpec.Utility.Asking
import CommandSpec.Utility.Names
import CommandSpec.Utility.Outcome

/-!
# `rmdir` and `rm`

`rmdir` removes empty directories. `rm` removes files and, on request, directories with all that is in
them, from the bottom up. It may ask before every removal; what is kept does not count as a failure,
but a directory that is not empty then cannot be removed.
-/

namespace CommandSpec.Utility

/-! ## Empty directories -/

/-- The directories above a path, the nearest first. -/
def parentsOf (path : String) : List String :=
  let pieces := ((Path.pieces path.toList).reverse.dropWhile (·.isEmpty)).reverse
  ((List.range (pieces.length - 1)).reverse.map fun k =>
    String.ofList (Path.join (pieces.take (k + 1)))).filter fun p => p ≠ "" && p.toList.getLast? ≠ some '/'

/-- Remove one empty directory; `what` words it in complaints. -/
def removeEmpty (a : Arguments) (what path : String) : Task Bool := do
  announce (a.has "v") ("removing directory, " ++ shellQuoted path)
  match ← Task.change fun files cwd => files.removeDirectory cwd path with
  | .ok () => return true
  | .error e =>
    if e = .notEmpty && a.has "ignore-fail-on-non-empty" then return false
    let bare := ((path.toList.reverse.dropWhile (· = '/')).reverse)
    let isLink := bare.length < path.length && (← Task.link? (.ofList bare)).any Node.isSymbolic
    refuse ("failed to remove " ++ what ++ shellQuoted path ++ ": "
      ++ if isLink && e = .notDirectory then "Symbolic link not followed" else e.wording)

/-- Remove empty directories one after another, as long as it works. -/
def removeParents (a : Arguments) : List String → Task Bool
  | [] => return true
  | path :: rest => do
    if ← removeEmpty a "directory " path then removeParents a rest
    else return a.has "ignore-fail-on-non-empty"

/-- Remove empty directories: `rmdir [-pv] [--ignore-fail-on-non-empty] directory…`. -/
def rmdir (args : List String) : Task Nat :=
  let table : OptionTable :=
    { flags := "pv", words := ["ignore-fail-on-non-empty"]
      names := [("parents", "p"), ("path", "p"), ("verbose", "v")] }
  withOptions table args fun a => do
    if a.operands.isEmpty then return (← misuse "missing operand" 1)
    forOperands a.operands fun path => do
      if ← removeEmpty a "" path then
        if a.has "p" then removeParents a (parentsOf path) else return true
      else
        let isFull := (← Task.link? path).any fun n => (n.directory?).any fun d => !d.entries.isEmpty
        return a.has "ignore-fail-on-non-empty" && isFull

/-! ## Files and trees -/

/-- How often `rm` asks. -/
inductive Caution where
  | never
  | once
  | always
  deriving DecidableEq, Repr, Inhabited

/-- How `rm` removes. -/
structure RemovalStyle where
  caution : Caution := .never
  /-- Whether it is nothing bad when there is nothing to remove. -/
  forced : Bool := false
  recursive : Bool := false
  /-- Whether empty directories are removed. -/
  emptyToo : Bool := false
  verbose : Bool := false
  deriving Inhabited

namespace RemovalStyle

/-- What one more option changes about how to remove, or what is wrong with it. -/
def addOption (s : RemovalStyle) (option : String × String) : Except String RemovalStyle := do
  match option with
  | ("f", _) => return { s with caution := .never, forced := true }
  | ("i", _) => return { s with caution := .always, forced := false }
  | ("I", _) => return { s with caution := .once, forced := false }
  | ("interactive", word) =>
    if word = "" then return { s with caution := .always, forced := false }
    match ← readChoice "--interactive" word
      [(["never", "no", "none"], Caution.never), (["once"], .once), (["always", "yes"], .always)] with
    | .never => return { s with caution := .never }
    | caution => return { s with caution, forced := false }
  | ("r", _) => return { s with recursive := true }
  | ("R", _) => return { s with recursive := true }
  | ("d", _) => return { s with emptyToo := true }
  | ("v", _) => return { s with verbose := true }
  | _ => return s

/-- Whether a removal may go on: nothing is asked, or the answer is yes. -/
def allows (s : RemovalStyle) (question : String) : Task Bool :=
  if s.caution = .always then confirm question else return true

/-- Complain that a path cannot be removed, unless there is nothing to remove and that is no matter. -/
def complain (s : RemovalStyle) (path : String) (e : OsError) : Task Bool :=
  if s.forced && (e = .noEntry || e = .notDirectory) then return true
  else refuse ("cannot remove " ++ shellQuoted path ++ ": " ++ e.wording)

/-- Remove one file, or one directory that is empty by now. -/
def removeOne (s : RemovalStyle) (path : String) (n : Node) : Task Bool := do
  if !(← s.allows ("remove " ++ describeKind n ++ " " ++ shellQuoted path)) then return true
  let removed ← Task.change fun files cwd =>
    if n.isDirectory then files.removeDirectory cwd path else files.removeFile cwd path
  match removed with
  | .ok () => tell s.verbose ((if n.isDirectory then "removed directory " else "removed ") ++ shellQuoted path)
  | .error e => s.complain path e

/-- Remove what a path names, with all that is in it; at most `fuel` levels. Whether nothing failed. -/
def removeTree (s : RemovalStyle) : (fuel : Nat) → (isOperand : Bool) → String → Task Bool
  | 0, _, _ => return false
  | fuel + 1, isOperand, path => do
    match ← lookLink path with
    | .error e => s.complain path e
    | .ok n =>
      match n.directory? with
      | none => s.removeOne path n
      | some d =>
        if !s.recursive && !(s.emptyToo && d.entries.isEmpty) then
          s.complain path (if s.emptyToo then .notEmpty else .isDirectory)
        else if isOperand && (baseName path = "." || baseName path = "..") then
          refuse ("refusing to remove '.' or '..' directory: skipping " ++ shellQuoted path)
        else if d.entries.isEmpty then s.removeOne path n
        else if !(← s.allows ("descend into directory " ++ shellQuoted path)) then return true
        else
          let names := (d.entries.map Prod.fst).mergeSort (· ≤ ·)
          let done ← names.mapM fun name => removeTree s fuel false (Path.inside path name)
          if done.all id then s.removeOne path n else return false

end RemovalStyle

/-- Whether a path leads to the root. -/
def isRoot (path : String) : Task Bool := do
  let (files, cwd) ← Task.place
  return (files.resolveLink cwd path).toOption = some FileSystem.root

/-- Remove files, and trees with `-r`: `rm [-dfiIrRv] [--interactive[=when]] file…`. -/
def rm (args : List String) : Task Nat :=
  let table : OptionTable :=
    { flags := "dfiIrRv", openWords := ["interactive", "preserve-root"]
      words := ["one-file-system", "no-preserve-root"]
      names := [("force", "f"), ("recursive", "r"), ("dir", "d"), ("verbose", "v")] }
  withOptions table args fun a => do
    match a.options.foldlM RemovalStyle.addOption {} with
    | .error complaint => misuse complaint 1
    | .ok style =>
      if a.operands.isEmpty then
        return (← if style.forced then return 0 else misuse "missing operand" 1)
      if style.caution = .once && (style.recursive || a.operands.length > 3) then
        let count := toString a.operands.length
          ++ (if a.operands.length = 1 then " argument" else " arguments")
        if !(← confirm ("remove " ++ count ++ (if style.recursive then " recursively" else ""))) then
          return 0
      forOperands a.operands fun path => do
        if style.recursive && (← isRoot path) && !a.has "no-preserve-root" then
          Task.complain ("it is dangerous to operate recursively on " ++ shellQuoted path)
          refuse "use --no-preserve-root to override this failsafe"
        else
          let (files, _) ← Task.place
          style.removeTree (files.nodes.size + 1) true path

end CommandSpec.Utility
