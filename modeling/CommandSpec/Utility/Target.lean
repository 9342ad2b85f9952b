import CommandSpec.Text.Integer
import CommandSpec.Utility.Asking
import CommandSpec.Utility.Names
import CommandSpec.Utility.Outcome

/-!
# Sources, targets and backups

`mv`, `cp` and `ln` share how their operands are read: one or more sources, and a target that may be
a directory to put them in. They also share what becomes of a file that is in the way: it is kept,
asked about, overwritten, or put aside under a backup name.
-/

namespace CommandSpec.Utility

/-! ## Operands -/

/-- A path without the slashes at its end. -/
def withoutSlashes (path : String) : String :=
  match path.toList.reverse.dropWhile (· = '/') with
  | [] => if path = "" then "" else "/"
  | cs => .ofList cs.reverse

/-- Each source with its destination. -/
abbrev Pairs := List (String × String)

/-- Whether a path leads to a directory, or the complaint about it. -/
def needDirectory (what target : String) : Task (Except String Unit) := do
  let wrong (e : OsError) : Except String Unit := .error (what ++ shellQuoted target ++ ": " ++ e.wording)
  match ← look target with
  | .ok n => return if n.isDirectory then .ok () else wrong .notDirectory
  | .error e => return wrong e

/-- What the operands ask for: each source with its destination, or the status after a complaint.
Several sources need a directory; a source put into one is called there what `nameIn` tells. -/
def readPairs (a : Arguments) (nameIn : String → String) : Task (Except Nat Pairs) := do
  let source (operand : String) : String :=
    if a.has "strip-trailing-slashes" then withoutSlashes operand else operand
  let into (target : String) (operands : List String) : Except Nat Pairs :=
    .ok (operands.map fun o => (source o, Path.inside target (nameIn (source o))))
  let wrong (complaint : String) : Task (Except Nat Pairs) := return .error (← misuse complaint 1)
  let intoNeeded (what target : String) (operands : List String) : Task (Except Nat Pairs) := do
    match ← needDirectory what target with
    | .ok () => return into target operands
    | .error complaint =>
      Task.complain complaint
      return .error 1
  match a.value? "t", a.operands with
  | _, [] => wrong "missing file operand"
  | some target, operands =>
    if a.has "T" then
      Task.complain "cannot combine --target-directory (-t) and --no-target-directory (-T)"
      return .error 1
    else intoNeeded "target directory " target operands
  | none, [only] => wrong ("missing destination file operand after " ++ shellQuoted only)
  | none, [first, target] =>
    if !a.has "T" && (← Task.node? target).any Node.isDirectory then return into target [first]
    else return .ok [(source first, target)]
  | none, operands =>
    match a.has "T", operands[2]? with
    | true, some extra => wrong ("extra operand " ++ shellQuoted extra)
    | _, _ => intoNeeded "target " (operands.getLastD "") operands.dropLast

/-- Tell of a source and its destination when that is wanted, and that it worked. -/
def tellPair (wanted : Bool) (verb arrow source target : String) (backup? : Option String) : Task Bool :=
  let backup := (backup?.map fun b => " (backup: " ++ shellQuoted b ++ ")").getD ""
  tell wanted (verb ++ shellQuoted source ++ arrow ++ shellQuoted target ++ backup)

/-! ## Same names -/

/-- The directory and the name that a path ends in. -/
def entryOf (files : FileSystem) (cwd : Inode) (path : String) : Option (Inode × String) :=
  (files.resolveParent cwd path).toOption

/-- Whether two paths end in the same name in the same directory. -/
def isSameName (files : FileSystem) (cwd : Inode) (a b : String) : Bool :=
  match entryOf files cwd a, entryOf files cwd b with
  | some x, some y => x = y
  | _, _ => false

/-! ## Backups -/

/-- How files in the way are put aside. -/
inductive BackupKind where
  | none
  /-- Under the name with an ending. -/
  | simple
  /-- Under the name with a number if there are such backups already, else with an ending. -/
  | existing
  /-- Under the name with a number that is free. -/
  | numbered
  deriving DecidableEq, Repr, Inhabited

/-- How files in the way are put aside, with the ending of their names. -/
structure BackupStyle where
  kind : BackupKind := .none
  ending : String := "~"
  deriving Inhabited

namespace BackupStyle

/-- The words for kinds of backups. -/
def kinds : List (List String × BackupKind) :=
  [(["none", "off"], .none), (["simple", "never"], .simple), (["existing", "nil"], .existing),
    (["numbered", "t"], .numbered)]

/-- What the options and the environment ask for, or what is wrong with them. -/
def ofArguments (environment : Environment) (a : Arguments) : Except String BackupStyle := do
  let isEnding (s : String) : Bool := s ≠ "" && !s.toList.contains '/'
  let ending := ((a.value? "S").or (environment.lookup "SIMPLE_BACKUP_SUFFIX")).filter isEnding
  let ending := ending.getD "~"
  if !a.hasAny ["b", "backup", "S"] then return { ending }
  let kind ← match (a.value? "backup").filter (· ≠ ""), environment.lookup "VERSION_CONTROL" with
    | some word, _ => readChoice "backup type" word kinds
    | none, some word => if word = "" then pure .existing else readChoice "$VERSION_CONTROL" word kinds
    | none, none => pure .existing
  return { kind, ending }

/-- The number of a backup of a name, if another name is one. -/
def number? (name other : String) : Option Nat := do
  let rest := other.toList.drop (name.length + 2)
  guard (other.toList.take (name.length + 2) = name.toList ++ ['.', '~'] && rest.getLast? = some '~')
  Text.readNumberIn? 10 rest.dropLast

/-- The path under which what a path names is put aside. -/
def pathFor (s : BackupStyle) (files : FileSystem) (cwd : Inode) (path : String) : Option String := do
  let bare := withoutSlashes path
  let (dir, name) ← entryOf files cwd path
  let numbers := (files.list dir).filterMap (number? name)
  let next := bare ++ ".~" ++ toString (numbers.foldl max 0 + 1) ++ "~"
  match s.kind with
  | .none => none
  | .simple => some (bare ++ s.ending)
  | .existing => some (if numbers.isEmpty then bare ++ s.ending else next)
  | .numbered => some next

/-- Put aside what a path names: under which path. -/
def putAside (s : BackupStyle) (path : String) : Task (Except OsError (Option String)) := do
  let (files, cwd) ← Task.place
  match s.pathFor files cwd path with
  | none => return .ok none
  | some backup =>
    return (← Task.change fun files cwd => files.rename cwd path backup).map fun _ => some backup

/-- Put back what was put aside. -/
def putBack (backup? : Option String) (path : String) : Task Unit := do
  if let some backup := backup? then
    let _ ← Task.change fun files cwd => files.rename cwd backup path

/-- Whether a source is what a backup of the target would replace. -/
def endangers (s : BackupStyle) (files : FileSystem) (cwd : Inode) (source target : String) : Bool :=
  let backup := withoutSlashes target ++ s.ending
  s.kind ≠ .none && s.kind ≠ .numbered && baseName source = baseName target ++ s.ending
    && (files.resolve cwd backup).toOption.isSome
    && (files.resolve cwd backup).toOption = (files.resolve cwd source).toOption

end BackupStyle

/-! ## Files in the way -/

/-- What becomes of a file that is in the way. -/
inductive Overwriting where
  | replaces
  | asks
  | keeps
  deriving DecidableEq, Repr, Inhabited

/-- How `mv` and `cp` deal with files in the way. -/
structure ReplacementStyle where
  overwriting : Overwriting := .replaces
  /-- Whether only older files are replaced. -/
  update : Bool := false
  backup : BackupStyle := {}
  deriving Inhabited

namespace ReplacementStyle

/-- What one more option asks for; only `mv` takes `-f` for a rule of this kind. -/
def addOption (isMove : Bool) (s : ReplacementStyle) (option : String × String) : ReplacementStyle :=
  match option.1 with
  | "f" => if isMove then { s with overwriting := .replaces } else s
  | "i" => { s with overwriting := .asks }
  | "n" => { s with overwriting := .keeps }
  | "u" => { s with update := true }
  | _ => s

/-- What the options ask for, or what is wrong with them. -/
def ofArguments (isMove : Bool) (environment : Environment) (a : Arguments) :
    Except String ReplacementStyle := do
  let backup ← BackupStyle.ofArguments environment a
  let found := a.options.foldl (addOption isMove) { backup }
  if backup.kind ≠ .none && found.overwriting = .keeps then
    throw "options --backup and --no-clobber are mutually exclusive"
  return found

/-- Whether nothing at a destination is ever replaced. -/
def keepsAll (s : ReplacementStyle) : Bool :=
  s.overwriting = .keeps

/-- Whether a source is to replace what is at its destination. It is nothing bad if it is not. -/
def replaces (s : ReplacementStyle) (source old : Node) (target : String) : Task Bool := do
  if s.overwriting = .keeps then return false
  if s.update && !source.isDirectory && old.modified ≥ source.modified then return false
  if s.overwriting = .asks then confirm ("overwrite " ++ shellQuoted target) else return true

end ReplacementStyle

end CommandSpec.Utility
