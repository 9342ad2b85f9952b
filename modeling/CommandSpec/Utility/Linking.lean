import CommandSpec.Utility.Location
import CommandSpec.Utility.Target

/-!
# `ln`

A file gets one more name, or a symbolic link is made that leads to a path. A link that is in the way
is replaced on request, but a file never takes the place of itself.
-/

namespace CommandSpec.Utility

/-- How `ln` links. -/
structure LinkStyle where
  symbolic : Bool := false
  /-- Whether a symbolic link leads to its target as seen from where it is. -/
  relative : Bool := false
  /-- Whether a hard link is made to what a symbolic link leads to. -/
  follows : Bool := false
  overwriting : Overwriting := .keeps
  backup : BackupStyle := {}
  verbose : Bool := false
  deriving Inhabited

namespace LinkStyle

/-- What the options ask for, or what is wrong with them. -/
def ofArguments (environment : Environment) (a : Arguments) : Except String LinkStyle := do
  let overwriting := match (a.last? ["f", "i"]).map Prod.fst with
    | some "f" => Overwriting.replaces
    | some _ => .asks
    | none => .keeps
  return { symbolic := a.has "s", relative := a.has "r"
           follows := (a.last? ["L", "P"]).any (·.1 = "L")
           overwriting, backup := ← BackupStyle.ofArguments environment a, verbose := a.has "v" }

/-- Whether a link that is in the way is taken away. -/
def clears (s : LinkStyle) : Bool :=
  s.overwriting ≠ .keeps || s.backup.kind ≠ .none

/-- What a symbolic link is to lead to. -/
def targetFor (s : LinkStyle) (files : FileSystem) (cwd : Inode) (source link : String) : String :=
  let names (path : String) : Option (List String) := (canonical files cwd .nothing true path).toOption
  match s.relative, names (dirName link), names source with
  | true, some base, some target => Utility.relative base target
  | _, _, _ => source

/-- Whether a link, whose node is `old`, is its own source, so that taking it away would lose that. -/
def isOwnSource (s : LinkStyle) (files : FileSystem) (cwd : Inode) (source link : String) (old : Inode) :
    Bool :=
  let found := if s.symbolic || s.follows then files.resolve cwd source else files.resolveLink cwd source
  !(s.symbolic && s.backup.kind ≠ .none) && found.toOption = some old
    && (files.linkCount old = 1 || isSameName files cwd source link)

/-- Make a link where nothing is in the way. -/
def carryOut (s : LinkStyle) (source link : String) : Task (Except OsError Unit) :=
  Task.change fun files cwd => do
    if s.symbolic then files.makeSymbolic cwd link source
    else
      let i ← if s.follows then files.resolve cwd source else files.resolveLink cwd source
      files.makeLink cwd i link

/-- How the failure to make a link is told. -/
def complaintFor (s : LinkStyle) (source link : String) (e : OsError) : String :=
  let isShort := if s.symbolic then e ≠ .nameTooLong && source ≠ "" else e = .alreadyExists
  let kind := if s.symbolic then "symbolic" else "hard"
  let arrow := if s.symbolic then " -> " else " => "
  "failed to create " ++ kind ++ " link " ++ shellQuoted link
    ++ (if isShort then "" else arrow ++ shellQuoted source) ++ ": " ++ e.wording

/-- Make a link, and put back what was put aside if that does not work. -/
def place (s : LinkStyle) (source link : String) (backup? : Option String) : Task Bool := do
  match ← s.carryOut source link with
  | .ok () =>
    let aside := (backup?.map fun b => shellQuoted b ++ " ~ ").getD ""
    tell s.verbose (aside ++ shellQuoted link ++ (if s.symbolic then " -> " else " => ") ++ shellQuoted source)
  | .error e =>
    BackupStyle.putBack backup? link
    refuse (s.complaintFor source link e)

/-- Make a link in place of what is in the way. -/
def replace (s : LinkStyle) (source link : String) (old : Inode) : Task Bool := do
  let (files, cwd) ← Task.place
  if (files.node old).isDirectory then
    return (← refuse (forShell link ++ ": cannot overwrite directory"))
  if s.isOwnSource files cwd source link old then
    return (← refuse (shellQuoted source ++ " and " ++ shellQuoted link ++ " are the same file"))
  if s.overwriting = .asks then
    if !(← confirm ("replace " ++ shellQuoted link)) then return true
  match ← s.backup.putAside link with
  | .error e => settle ("cannot backup " ++ shellQuoted link) (.error e)
  | .ok backup? =>
    if !s.symbolic && (files.resolveLink cwd source).toOption = some old then
      s.place source link backup?
    else
      let _ ← Task.change fun files cwd => files.removeFile cwd link
      s.place source link backup?

/-- Make one link: whether that worked. -/
def linkOne (s : LinkStyle) (source link : String) : Task Bool := do
  let (files, cwd) ← Task.place
  let found := if s.follows then files.resolve cwd source else files.resolveLink cwd source
  match s.symbolic, found.map files.node with
  | false, .error e => settle ("failed to access " ++ shellQuoted source) (.error e)
  | isSymbolic, n? =>
    if !isSymbolic && n?.toOption.any Node.isDirectory then
      return (← refuse (forShell source ++ ": hard link not allowed for directory"))
    let source := s.targetFor files cwd source link
    match files.resolveLink cwd link with
    | .ok old => if s.clears then s.replace source link old else s.place source link none
    | .error _ => s.place source link none

end LinkStyle

/-- Each source of `ln` with the link to it, or the status after a complaint. -/
def readLinks (a : Arguments) : Task (Except Nat Pairs) := do
  let into (target : String) (operands : List String) : Except Nat Pairs :=
    .ok (operands.map fun o => (o, withoutSlashes (Path.inside target (baseName o))))
  let isDirectory (path : String) : Task Bool := do
    let found ← if a.has "n" then Task.link? path else Task.node? path
    return found.any Node.isDirectory
  match a.has "T", a.value? "t", a.operands with
  | _, _, [] => return .error (← misuse "missing file operand" 1)
  | true, none, [_, _] => return .ok [(a.operands.headD "", a.operands.getLastD "")]
  | true, none, _ => readPairs a baseName
  | true, some _, _ =>
    Task.complain "cannot combine --target-directory and --no-target-directory"
    return .error 1
  | false, none, [only] => return into "." [only]
  | false, target?, operands =>
    let target := target?.getD (operands.getLastD "")
    let sources := if target?.isSome then operands else operands.dropLast
    if ← isDirectory target then return into target sources
    else if sources.length = 1 && target?.isNone then return .ok (sources.map fun s => (s, target))
    else
      match ← needDirectory "target " target with
      | .ok () => return into target sources
      | .error complaint =>
        Task.complain complaint
        return .error 1

/-- Make links: `ln [-bfiLnPrsTv] [-S suffix] [-t directory] source… [link]`. -/
def ln (args : List String) : Task Nat :=
  let table : OptionTable :=
    { flags := "bdfFiLnPrsTv", valued := "tS"
      names := [("directory", "d"), ("no-dereference", "n"), ("no-target-directory", "T"), ("force", "f"),
        ("interactive", "i"), ("suffix", "S"), ("target-directory", "t"), ("logical", "L"),
        ("physical", "P"), ("relative", "r"), ("symbolic", "s"), ("verbose", "v")]
      openWords := ["backup"] }
  withOptions table args fun a => do
    match LinkStyle.ofArguments (← read).environment a with
    | .error complaint => misuse complaint 1
    | .ok style =>
      if a.operands.isEmpty then return (← misuse "missing file operand" 1)
      if style.relative && !style.symbolic then
        Task.complain "cannot do --relative without --symbolic"
        return 1
      match ← readLinks a with
      | .error status => return status
      | .ok pairs =>
        let done ← pairs.mapM fun (source, link) => style.linkOne source link
        return if done.all id then 0 else 1

/-- Give a file one more name: `link file name`. -/
def link (args : List String) : Task Nat :=
  withOptions {} args fun a => do
    match a.operands with
    | [] => misuse "missing operand" 1
    | [file] => misuse ("missing operand after " ++ inQuotes file) 1
    | [file, name] =>
      let done ← Task.change fun files cwd => do files.makeLink cwd (← files.resolveLink cwd file) name
      return if ← settle ("cannot create link " ++ shellQuoted name ++ " to " ++ shellQuoted file) done
        then 0 else 1
    | _ :: _ :: extra :: _ => misuse ("extra operand " ++ inQuotes extra) 1

/-- Take a file its name: `unlink file`. -/
def unlink (args : List String) : Task Nat :=
  withOptions {} args fun a => do
    match a.operands with
    | [] => misuse "missing operand" 1
    | [file] =>
      let done ← Task.change fun files cwd => files.removeFile cwd file
      return if ← settle ("cannot unlink " ++ shellQuoted file) done then 0 else 1
    | _ :: extra :: _ => misuse ("extra operand " ++ inQuotes extra) 1

end CommandSpec.Utility
