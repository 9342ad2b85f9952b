import CommandSpec.Utility.Asking
import CommandSpec.Utility.Children
import CommandSpec.Utility.Finding.Reading
import CommandSpec.Utility.Outcome

/-!
# Searching

A search goes through a directory and all that is in it. For every file that it comes to, the expression is
evaluated. Paths that are gathered for a command are held back until there are enough of them, or the search
is over.
-/

namespace CommandSpec.Utility.Finding

/-- A search: what is asked, where output goes, and what lies around. -/
structure Search where
  settings : Settings
  expression : Expression
  /-- The descriptors of the files that actions write to. -/
  outputs : List (String × Nat) := []
  deriving Inhabited

/-- Paths that wait for a command. -/
structure Waiting where
  number : Nat
  command : List String
  /-- The directory that the command is run in, if it is not the current one. -/
  place : Option Inode
  /-- The paths, the last one first. -/
  paths : List String
  deriving Inhabited

/-- How far a search has come. -/
structure Progress where
  status : Nat := 0
  waiting : List Waiting := []
  /-- Whether the directory is left out. -/
  pruned : Bool := false
  stopped : Bool := false
  deriving Inhabited

/-- Run a command, in another directory if one is given: whether it ended well. -/
def runCommand (place : Option Inode) (command : List String) : Task Bool := do
  let name := command.headD ""
  let launch := (← read).launch
  let environment := (← read).environment
  let refuse (reason : String) : Task Nat := do
    Task.complain (inQuotes name ++ ": " ++ reason)
    return 1
  let pid ← Task.fork do
    if let some i := place then Task.call (Call.modifySelf fun p => { p with directory := i })
    let table := (← Task.call Call.self).descriptors.filter (·.1 ≤ 2)
    match ← locate name with
    | .missing => refuse "No such file or directory"
    | .denied => refuse "Permission denied"
    | .program path =>
      Task.call (Call.setDescriptors table)
      Task.become (launch environment path name command.tail)
  return (← Task.waitFor pid Task.patience) matches .exited 0

/-- Run the command that paths wait for. -/
def Waiting.flush (w : Waiting) (p : Progress) : Task Progress := do
  if w.paths.isEmpty then return p
  let ok ← runCommand w.place (w.command ++ w.paths.reverse)
  return if ok then p else { p with status := 1 }

/-- How many characters a command may have. -/
def commandLimit : Nat := 131072

/-- Gather a path. What waits already is run before if it is for another directory or grows too long. -/
def gather (number : Nat) (command : List String) (place : Option Inode) (path : String) (p : Progress) :
    Task Progress := do
  let others := p.waiting.filter (·.number ≠ number)
  let fresh : Waiting := { number, command, place, paths := [] }
  let held := (p.waiting.find? (·.number = number)).getD fresh
  let size := sumOf ((command ++ path :: held.paths).map fun w => w.length + 1)
  let mustRun := held.place ≠ place || commandLimit < size
  let p ← if mustRun then held.flush p else pure p
  let held := if mustRun then fresh else held
  return { p with waiting := { held with paths := path :: held.paths } :: others }

/-- Run all commands that paths wait for. -/
def flushAll (p : Progress) : Task Progress := do
  let p' ← (p.waiting.mergeSort fun a b => a.number ≤ b.number).foldlM (fun p w => w.flush p) p
  return { p' with waiting := [] }

/-- The directory that a path is in, and the path as it is named there. -/
def placeOf (path : String) : Task (Option Inode × String) := do
  let (files, cwd) ← Task.place
  let trimmed := (path.toList.reverse.dropWhile (· = '/')).reverse
  let before := (trimmed.reverse.dropWhile (· ≠ '/')).reverse
  let name := String.ofList (trimmed.drop before.length)
  if trimmed.isEmpty then return (some FileSystem.root, path)
  let parent := if before.isEmpty then .ok cwd else files.resolve cwd (.ofList before)
  return (parent.toOption, "./" ++ name)

/-- Put a path in place of its mark. -/
def putPath (path : String) (word : String) : String :=
  path.intercalate (word.splitOn "\x7b\x7d")

namespace Search

/-- Whether something holds of a file. -/
def answer (s : Search) (files : FileSystem) (cwd : Inode) (v : Visit) : Question → Bool
  | .always b => b
  | .name pattern ignoresCase => Shell.matchesPattern pattern (fold ignoresCase (baseName v.path))
  | .path pattern ignoresCase => Shell.matchesPattern pattern (fold ignoresCase v.path)
  | .target pattern ignoresCase =>
    match v.node.content with
    | .symbolic target => Shell.matchesPattern pattern (fold ignoresCase target)
    | _ => false
  | .regex pattern =>
    let path := v.path.toList
    (pattern.matchAt {} path 0).any fun m => m.stop = path.length
  | .kind letters follows =>
    let letter :=
      if !follows then kindOf v.node
      else if s.settings.followsAll then
        ((files.resolveLink cwd v.path).toOption.map fun i => kindOf (files.node i)).getD 'l'
      else
        let behind := kindBehind files cwd v.path
        if behind = 'N' || behind = 'L' then 'l' else behind
    letters.contains letter
  | .empty =>
    match v.node.content with
    | .directory d => d.entries.isEmpty
    | .file bytes => bytes.isEmpty
    | _ => false
  | .size unit bound => bound.holds ((shownSize v.node + unit - 1) / unit)
  | .aged time relation moment span =>
    let t : Int := timeOf v.node time
    match relation with
    | .gt => if span = 0 then moment < t else t < moment
    | .lt => moment < t
    | .eq => moment < t && t ≤ moment + span
  | .permission rule bits =>
    match rule with
    | .exactly => v.node.mode &&& allModeBits = bits
    | .all => v.node.mode &&& bits = bits
    | .any => bits = 0 || v.node.mode &&& bits ≠ 0
  | .links bound => bound.holds (files.linkCount v.inode)
  | .inode bound => bound.holds (v.inode + 2)
  | .owner bound => bound.holds v.node.user
  | .group bound => bound.holds v.node.group
  | .same i => v.inode = i
  | .executable =>
    ((files.resolve cwd v.path).toOption.map fun i => (files.node i).isDirectory || (files.node i).isExecutable).getD false
where
  /-- A text in small letters if case does not matter. -/
  fold (ignoresCase : Bool) (text : String) : List Char :=
    if ignoresCase then text.toList.map Char.toLower else text.toList

/-- Write where an action writes to. -/
def emit (s : Search) (output : Option String) (text : String) : Task Unit := do
  match output.bind fun path => s.outputs.lookup path with
  | none => Task.print text
  | some fd =>
    let _ ← Task.write fd text

/-- Delete a file. -/
def remove (v : Visit) (p : Progress) : Task (Bool × Progress) := do
  if v.path = "." then return (true, p)
  match ← Task.change fun files cwd =>
      if v.node.isDirectory then files.removeDirectory cwd v.path else files.removeFile cwd v.path with
  | .ok () => return (true, p)
  | .error e =>
    Task.complain ("cannot delete " ++ inQuotes v.path ++ ": " ++ e.wording)
    return (false, { p with status := 1 })

/-- Act on a file: the answer. -/
def act (s : Search) (v : Visit) (output : Option String) (p : Progress) : Action → Task (Bool × Progress)
  | .print ending => do
    s.emit output (v.path ++ ending)
    return (true, p)
  | .format pieces => do
    let (files, cwd) ← Task.place
    s.emit output (writePieces files cwd v pieces)
    return (true, p)
  | .list => do
    let (files, _) ← Task.place
    s.emit output (listLine files v)
    return (true, p)
  | .run command inDirectory asks => do
    let (place, path) ← if inDirectory then placeOf v.path else pure (none, v.path)
    let allowed ←
      if asks then
        let _ ← Task.write 2 ("< " ++ command.headD "" ++ " ... " ++ path ++ " > ? ")
        let reply ← readAnswer Task.patience
        pure (reply.toList.head? = some 'y' || reply.toList.head? = some 'Y')
      else pure true
    if !allowed then return (false, p)
    return (← runCommand place (command.map (putPath path)), p)
  | .gather number command inDirectory => do
    let (place, path) ← if inDirectory then placeOf v.path else pure (none, v.path)
    return (true, ← gather number command place path p)
  | .delete => remove v p
  | .prune => return (true, { p with pruned := true })
  | .quit => return (true, { p with stopped := true })

/-- Evaluate an expression for a file: the answer. -/
def evaluate (s : Search) (v : Visit) : Expression → Progress → Task (Bool × Progress)
  | .question q, p => do
    let (files, cwd) ← Task.place
    return (s.answer files cwd v q, p)
  | .action a output, p => s.act v output p a
  | .negation e, p => do
    let (b, p) ← s.evaluate v e p
    return (!b, p)
  | .both a b, p => do
    let (x, p) ← s.evaluate v a p
    if x && !p.stopped then s.evaluate v b p else return (x, p)
  | .either a b, p => do
    let (x, p) ← s.evaluate v a p
    if x || p.stopped then return (x, p) else s.evaluate v b p
  | .sequence a b, p => do
    let (x, p) ← s.evaluate v a p
    if p.stopped then return (x, p) else s.evaluate v b p

/-- Complain about a path. -/
def complainOf (path : String) (reason : String) (p : Progress) : Task Progress := do
  Task.complain (inQuotes path ++ ": " ++ reason)
  return { p with status := 1 }

/-- The node that a path stands for in a search. -/
def nodeAt (s : Search) (depth : Nat) (path : String) : Task (Except OsError Inode) := do
  let (files, cwd) ← Task.place
  let link := files.resolveLink cwd path
  if s.settings.followsAll || (s.settings.followsStarts && depth = 0) then
    match files.resolve cwd path with
    | .ok i => return .ok i
    | .error e => return link.mapError fun _ => e
  else return link

/-- Visit a path and all below it, at most `fuel` levels; `above` are the directories on the way with their
paths. -/
def visit (s : Search) : (fuel : Nat) → (above : List (Inode × String)) → (start : String) → (depth : Nat) →
    (path : String) → Progress → Task Progress
  | 0, _, _, _, _, p => return p
  | fuel + 1, above, start, depth, path, p => do
    if p.stopped then return p
    match ← s.nodeAt depth path with
    | .error e => complainOf path e.wording p
    | .ok i =>
      let (files, _) ← Task.place
      let v : Visit := { path, start, depth, inode := i, node := files.node i }
      if v.node.isDirectory then
        if let some (_, first) := above.find? (·.1 = i) then
          Task.complain ("File system loop detected; " ++ inQuotes path ++ " is part of the same file system loop as "
            ++ inQuotes first ++ ".")
          return { p with status := 1 }
      let look (p : Progress) : Task Progress := do
        if depth < s.settings.least then return p
        let (files, _) ← Task.place
        return (← s.evaluate { v with node := files.node i } s.expression p).2
      let p := { p with pruned := false }
      let p ← if s.settings.contentsFirst then pure p else look p
      let goesIn := v.node.isDirectory && !p.stopped && !p.pruned && s.settings.most.all (depth < ·)
      let p ←
        if !goesIn then pure p
        else
          let (files, _) ← Task.place
          match (files.node i).directory? with
          | none => pure p
          | some d =>
            if !d.linked && i ≠ FileSystem.root then complainOf path "No such file or directory" p
            else
              (d.entries.map Prod.fst).foldlM
                (fun p name => visit s fuel ((i, path) :: above) start (depth + 1) (Path.inside path name) p) p
      if s.settings.contentsFirst && !p.stopped then look p else return p

/-- Search from all places. -/
def run (s : Search) (starts : List String) : Task Nat := do
  let p ← starts.foldlM (fun p start => s.visit 1000 [] start 0 start p) ({} : Progress)
  return (← flushAll p).status

end Search

end CommandSpec.Utility.Finding
