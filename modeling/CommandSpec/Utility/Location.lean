import CommandSpec.Machine.Locate
import CommandSpec.Utility.Inputs
import CommandSpec.Utility.Outcome

/-!
# Where paths lead

A path is *canonical* when it is absolute and has no `.`, no `..` and no symbolic link in it. It is
kept as the names from the root. `readlink` and `realpath` tell canonical paths; how much of a path
has to be there for that is chosen. A canonical path can also be told as seen from another one.
-/

namespace CommandSpec.Utility

/-- How much of a path has to be there. -/
inductive Presence where
  | all
  | allButLast
  | nothing
  deriving DecidableEq, Repr, Inhabited

/-- Whether the pieces after a name ask for a directory under that name. -/
def asksDirectory : List String → Bool
  | [] => false
  | piece :: rest =>
    if piece = ".." then true
    else if piece = "" || piece = "." then rest.isEmpty || asksDirectory rest
    else false

/-- The node under names from the root, links followed or not at the end. -/
def nodeUnder (files : FileSystem) (follow : Bool) (names : List String) : Except OsError Node :=
  (files.walk FileSystem.maxLinks FileSystem.root follow names).map files.node

/-- The canonical names that pieces lead to from other names, given in reverse; at most `fuel` pieces.
Symbolic links stay when they are not followed, and else at most `links` of them are. -/
def canonicalNames (files : FileSystem) (presence : Presence) (follows : Bool) :
    (fuel links : Nat) → (above : List String) → List String → Except OsError (List String)
  | 0, _, _, _ => .error .tooManyLinks
  | _ + 1, _, above, [] => .ok above.reverse
  | fuel + 1, links, above, piece :: rest =>
    let goOn (above : List String) : Except OsError (List String) :=
      canonicalNames files presence follows fuel links above rest
    if piece = "" || piece = "." then goOn above
    else if piece = ".." then goOn (above.drop 1)
    else
      let here := piece :: above
      let found := if piece.length > FileSystem.maxName then .error .nameTooLong
        else nodeUnder files false here.reverse
      match found with
      | .error e =>
        let isLast := rest.all (· = "")
        if presence = .nothing || (presence = .allButLast && e = .noEntry && isLast) then goOn here
        else .error e
      | .ok n =>
        match n.content, follows, links with
        | .symbolic target, true, links + 1 =>
          let start := if target.toList.head? = some '/' then [] else above
          canonicalNames files presence follows fuel links start (FileSystem.piecesOf target ++ rest)
        | .symbolic _, true, 0 => if presence = .nothing then goOn here else .error .tooManyLinks
        | _, _, _ =>
          let isDirectory := ((nodeUnder files true here.reverse).toOption.map Node.isDirectory).getD false
          if asksDirectory rest && !isDirectory && presence ≠ .nothing then .error .notDirectory
          else goOn here

/-- The canonical names of a path. -/
def canonical (files : FileSystem) (cwd : Inode) (presence : Presence) (follows : Bool) (path : String) :
    Except OsError (List String) := do
  if path = "" then throw .noEntry
  let pieces := FileSystem.piecesOf path
  let above ← if path.toList.head? = some '/' then pure []
    else files.namesTo (files.nodes.size + 1) cwd []
  canonicalNames files presence follows (pieces.length + 4096) FileSystem.maxLinks above.reverse pieces

/-- Names from the root as an absolute path. -/
def absolute (names : List String) : String :=
  "/" ++ "/".intercalate names

/-- The path that leads from one directory to what other names lead to. -/
def relative (base names : List String) : String :=
  let common := ((base.zip names).takeWhile fun (a, b) => a = b).length
  let pieces := List.replicate (base.length - common) ".." ++ names.drop common
  if pieces.isEmpty then "." else "/".intercalate pieces

/-! ## `readlink` -/

/-- Tell what symbolic links lead to: `readlink [-efmnqsvz] file…`. -/
def readlink (args : List String) : Task Nat :=
  let table : OptionTable :=
    { flags := "efmnqsvz"
      names := [("canonicalize", "f"), ("canonicalize-existing", "e"), ("canonicalize-missing", "m"),
        ("no-newline", "n"), ("quiet", "q"), ("silent", "s"), ("verbose", "v"), ("zero", "z")] }
  withOptions table args fun a => do
    if a.operands.isEmpty then return (← misuse "missing operand" 1)
    let isSeveral := a.operands.length > 1
    if isSeveral && a.has "n" then Task.complain "ignoring --no-newline with multiple arguments"
    let close := if a.has "n" && !isSeveral then "" else if a.has "z" then "\x00" else "\n"
    let presence? := (a.last? ["e", "f", "m"]).map fun o =>
      if o.1 = "e" then Presence.all else if o.1 = "f" then .allButLast else .nothing
    let talks := (a.last? ["v", "q", "s"]).any (·.1 = "v")
    forOperands a.operands fun path => do
      let (files, cwd) ← Task.place
      let found : Except OsError String := match presence? with
        | some presence => (canonical files cwd presence true path).map absolute
        | none => do
          match (files.node (← files.resolveLink cwd path)).content with
          | .symbolic target => return target
          | _ => throw .invalid
      match found with
      | .ok text =>
        Task.print (text ++ close)
        return true
      | .error e =>
        if talks then Task.complain (forShell path ++ ": " ++ e.wording)
        return false

/-! ## `realpath` -/

/-- How `realpath` makes paths canonical. -/
structure PathStyle where
  presence : Presence
  /-- Whether symbolic links stay. -/
  keepsLinks : Bool
  /-- Whether `..` takes away the name before it, be that a link or not. -/
  logical : Bool

/-- The canonical names of a path in a style. -/
def PathStyle.names (s : PathStyle) (files : FileSystem) (cwd : Inode) (path : String) :
    Except OsError (List String) := do
  let found ← canonical files cwd s.presence (!s.keepsLinks && !s.logical) path
  if s.logical then canonical files cwd s.presence true (absolute found) else return found

/-- Tell the canonical paths of files: `realpath [-eLmPqsz] [--relative-to=directory]
[--relative-base=directory] file…`. -/
def realpath (args : List String) : Task Nat :=
  let table : OptionTable :=
    { flags := "eLmPqsz", valuedWords := ["relative-to", "relative-base"]
      names := [("canonicalize-existing", "e"), ("canonicalize-missing", "m"), ("logical", "L"),
        ("physical", "P"), ("quiet", "q"), ("strip", "s"), ("no-symlinks", "s"), ("zero", "z")] }
  withOptions table args fun a => do
    if a.operands.isEmpty then return (← misuse "missing operand" 1)
    let links := (a.last? ["L", "P", "s"]).map Prod.fst
    let style : PathStyle :=
      { presence := match (a.last? ["e", "m"]).map Prod.fst with
          | some "e" => .all
          | some _ => .nothing
          | none => .allButLast
        keepsLinks := links = some "s", logical := links = some "L" }
    let (files, cwd) ← Task.place
    let base (path : String) : Except String (List String) :=
      match style.names files cwd path with
      | .error e => .error (forShell path ++ ": " ++ e.wording)
      | .ok names =>
        let isDirectory := ((nodeUnder files true names).toOption.map Node.isDirectory).getD false
        if style.presence = .all && !isDirectory then
          .error (forShell path ++ ": " ++ OsError.notDirectory.wording)
        else .ok names
    let bases : Except String (Option (List String) × Option (List String)) := do
      let top? ← (a.value? "relative-base").mapM base
      let start? ← ((a.value? "relative-to").mapM base)
      match start?, top? with
      | some start, some top => return if top.isPrefixOf start then (start?, top?) else (none, none)
      | none, some top => return (some top, some top)
      | start?, none => return (start?, none)
    match bases with
    | .error complaint =>
      Task.complain complaint
      return 1
    | .ok (start?, top?) =>
      let close := if a.has "z" then "\x00" else "\n"
      forOperands a.operands fun path => do
        match style.names files cwd path with
        | .ok names =>
          let isSeen := top?.all (·.isPrefixOf names)
          let shown := match start? with
            | some start => if isSeen then relative start names else absolute names
            | none => absolute names
          Task.print (shown ++ close)
          return true
        | .error e =>
          if a.has "q" then return false
          refuse (forShell path ++ ": " ++ e.wording)

/-- The programs that a name stands for, in the order in which they are looked for. -/
def programsNamed (files : FileSystem) (cwd : Inode) (searchPath name : String) : List String :=
  (Located.candidates searchPath name).filter fun path =>
    match files.resolve cwd path with
    | .ok i => (files.node i).isFile && (files.node i).isExecutable
    | .error _ => false

/-- Tell where programs are: `which [-a] name…`. -/
def which (args : List String) : Task Nat := do
  let table : OptionTable := { flags := "as", ordered := true }
  match table.read args with
  | .error complaint =>
    let letter := complaint.toList.reverse.drop 1 |>.head?
    Task.remark ("Illegal option -" ++ ((letter.map Char.toString).getD ""))
    Task.printLine "Usage: /usr/bin/which [-as] args"
    return 2
  | .ok a =>
    let (files, cwd) ← Task.place
    let searchPath := ((← read).environment.lookup "PATH").getD "/bin:/usr/bin"
    let found := a.operands.map (programsNamed files cwd searchPath)
    if !a.has "s" then
      for paths in found do
        for path in if a.has "a" then paths else paths.take 1 do Task.printLine path
    return if a.operands.isEmpty || found.any List.isEmpty then 1 else 0

end CommandSpec.Utility
