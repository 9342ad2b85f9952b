import CommandSpec.Utility.Sameness

/-!
# `cp`

Files are copied by their content, and with `-r` directories with all that is in them. Instead of
copies there may be links to the sources. While a call goes on it is known where the sources went, so
that two names of one file can stay two names of one copy, and so that a directory that is copied into
itself is not copied without end.
-/

namespace CommandSpec.Utility

/-- Which symbolic links are followed to what is copied. -/
inductive Following where
  | all
  /-- Those that operands name. -/
  | operands
  | none
  deriving DecidableEq, Repr, Inhabited

/-- What is made of a source. -/
inductive Making where
  | copies
  | hardLinks
  | symbolicLinks
  deriving DecidableEq, Repr, Inhabited

/-- How `cp` copies. -/
structure CopyStyle where
  recursive : Bool := false
  following : Following := .all
  making : Making := .copies
  replacement : ReplacementStyle := {}
  /-- Whether what cannot be written is taken away. -/
  forced : Bool := false
  /-- Whether what is in the way is taken away. -/
  clears : Bool := false
  keepsMode : Bool := false
  keepsTimes : Bool := false
  /-- Whether copies belong to whom the sources belong to. -/
  keepsOwner : Bool := false
  /-- Whether several names of a file become several names of its copy. -/
  keepsLinks : Bool := false
  /-- Whether new files get the mode that files have by default. -/
  defaultMode : Bool := false
  /-- Whether no content is copied. -/
  attributesOnly : Bool := false
  /-- Whether what can be read is copied as a file. -/
  asFiles : Bool := true
  /-- Whether a source has the directories of its path above it also at its destination. -/
  withParents : Bool := false
  verbose : Bool := false
  deriving Inhabited

namespace CopyStyle

/-! ## Options -/

/-- Something about a file that is kept or not. -/
inductive Attribute where
  | mode
  | times
  | owner
  | links
  | all
  | other

/-- The words for what is kept. -/
def attributes : List (List String × Attribute) :=
  [(["mode"], .mode), (["timestamps"], .times), (["ownership"], .owner), (["links"], .links),
    (["context"], .other), (["xattr"], .other), (["all"], .all)]

/-- The style in which some attributes are kept or not. -/
def keep (keeps : Bool) (s : CopyStyle) : Attribute → CopyStyle
  | .mode => { s with keepsMode := keeps, defaultMode := !keeps }
  | .times => { s with keepsTimes := keeps }
  | .owner => { s with keepsOwner := keeps }
  | .links => { s with keepsLinks := keeps }
  | .all =>
    { s with
      keepsMode := keeps, defaultMode := !keeps, keepsTimes := keeps, keepsOwner := keeps, keepsLinks := keeps }
  | .other => s

/-- The style in which the attributes that a text lists are kept or not. -/
def keepListed (keeps : Bool) (option text : String) (s : CopyStyle) : Except String CopyStyle := do
  let found ← (text.splitOn ",").mapM fun word => readChoice option word attributes
  return found.foldl (keep keeps) s

/-- What one more option changes about how to copy, or what is wrong with it. -/
def addOption (s : CopyStyle) (option : String × String) : Except String CopyStyle := do
  let kept : CopyStyle := { s with keepsMode := true, keepsTimes := true, keepsOwner := true }
  match option with
  | ("a", _) => return { keep true s .all with following := .none, recursive := true }
  | ("d", _) => return { s with following := .none, keepsLinks := true }
  | ("f", _) => return { s with forced := true }
  | ("H", _) => return { s with following := .operands }
  | ("L", _) => return { s with following := .all }
  | ("P", _) => return { s with following := .none }
  | ("l", _) => return { s with making := .hardLinks }
  | ("s", _) => return { s with making := .symbolicLinks }
  | ("p", _) => return kept
  | ("r", _) => return { s with recursive := true }
  | ("R", _) => return { s with recursive := true }
  | ("v", _) => return { s with verbose := true }
  | ("attributes-only", _) => return { s with attributesOnly := true }
  | ("parents", _) => return { s with withParents := true }
  | ("preserve", "") => return kept
  | ("preserve", text) => keepListed true "--preserve" text s
  | ("no-preserve", text) => keepListed false "--no-preserve" text s
  | ("remove-destination", _) => return { s with clears := true }
  | _ => return s

/-- The style that options ask for, or what is wrong with them. -/
def ofArguments (environment : Environment) (a : Arguments) : Except String CopyStyle := do
  let replacement ← ReplacementStyle.ofArguments false environment a
  let s ← a.options.foldlM addOption { replacement }
  if a.has "l" && a.has "s" then throw "cannot make both hard and symbolic links"
  let isTold := a.hasAny ["a", "d", "H", "L", "P"]
  let follows := isTold || !s.recursive || s.making = .hardLinks
  return { s with
    following := if follows then s.following else .none
    asFiles := !s.recursive || a.has "copy-contents"
    clears := s.clears || (s.forced && s.making ≠ .copies) }

/-- Whether the destination is put aside first. -/
def putsAside (s : CopyStyle) : Bool :=
  s.replacement.backup.kind ≠ .none

/-- Whether a source is what a symbolic link leads to. -/
def follows (s : CopyStyle) (isOperand : Bool) : Bool :=
  s.following = .all || (s.following = .operands && isOperand)

end CopyStyle

/-! ## What was copied already -/

/-- What a call has copied so far. -/
structure Copied where
  /-- Where sources went of which more names may follow. -/
  places : List (Inode × String) := []
  /-- The operands. -/
  operands : List (Inode × String) := []
  /-- What was made of operands. -/
  made : List (Inode × String) := []
  /-- Whether a directory was made for the operand at hand. -/
  hasTop : Bool := false
  /-- Whether the operand at hand was found to be copied into itself. -/
  inItself : Bool := false
  deriving Inhabited

/-- A part of a call that copies. -/
abbrev Copying := StateT Copied Task

/-- One file to copy: where from and where to, and the node that is the source. -/
structure CopyJob where
  source : String
  target : String
  inode : Inode
  node : Node
  isOperand : Bool

namespace CopyJob

/-- The two paths in quotes, with a text between them. -/
def pair (j : CopyJob) (between : String) : String :=
  shellQuoted j.source ++ between ++ shellQuoted j.target

/-- The complaint that source and destination do not go together. -/
def mismatch? (j : CopyJob) (old : Node) : Option String :=
  if j.node.isDirectory && !old.isDirectory then
    some ("cannot overwrite non-directory " ++ shellQuoted j.target ++ " with directory "
      ++ shellQuoted j.source)
  else if !j.node.isDirectory && old.isDirectory then
    some ("cannot overwrite directory " ++ shellQuoted j.target ++ " with non-directory")
  else none

end CopyJob

/-! ## Making what is at a destination -/

namespace CopyStyle

/-- Give a copy the mode, the times and the owner that it is to have. -/
def finish (s : CopyStyle) (j : CopyJob) (isNew : Bool) : Task Unit := do
  let _ ← Task.change fun files cwd => do
    let i ← files.resolveLink cwd j.target
    let isLink := (files.node i).isSymbolic
    let base := if j.node.isDirectory then 0o777 else 0o666
    return files.amend i fun n => { n with
      mode := if isLink then n.mode else if s.keepsMode then j.node.mode
        else if s.defaultMode && isNew then base - (base &&& files.mask) else n.mode
      user := if s.keepsOwner then j.node.user else n.user
      group := if s.keepsOwner then j.node.group else n.group
      modified := if s.keepsTimes then j.node.modified else n.modified
      accessed := if s.keepsTimes then j.node.accessed else n.accessed }

/-- The destination of a copy as an open file: a new one, or one that is there already. -/
def openTarget (j : CopyJob) (isNew : Bool) : Task (Except String Nat) := do
  let refused (e : OsError) : Except String Nat :=
    .error ("cannot create regular file " ++ shellQuoted j.target ++ ": " ++ e.wording)
  let made ← if !isNew then pure (.ok ()) else
    Task.change fun files cwd => do
      let (dir, name) ← files.resolveParent cwd j.target
      if j.target.toList.getLast? = some '/' then throw .notDirectory
      files.checkFree dir name
      return (← files.create cwd j.target (j.node.mode &&& 0o777) fun _ => .file .empty).2
  match made with
  | .error .alreadyExists => return .error ("not writing through dangling symlink " ++ shellQuoted j.target)
  | .error e => return refused e
  | .ok () =>
    match ← Task.openPath j.target .write with
    | .error e => return refused e
    | .ok fd => return .ok fd

/-- Copy the content of a file. -/
def copyContent (s : CopyStyle) (j : CopyJob) (isNew : Bool) : Task Bool := do
  match ← Task.openPath j.source .read with
  | .error e => settle ("cannot open " ++ shellQuoted j.source ++ " for reading") (.error e)
  | .ok input =>
    if s.attributesOnly && !isNew then
      s.finish j isNew
      return true
    match ← openTarget j isNew with
    | .error complaint => refuse complaint
    | .ok output =>
      let done ← match j.node.content with
        | .program _ => Task.change fun files cwd => do
          return files.store (← files.resolve cwd j.target) j.node.content
        | _ => if s.attributesOnly then pure (.ok ()) else
          match ← Task.readAll input with
          | .error e => pure (.error e)
          | .ok text => Task.write output text
      Task.close input
      Task.close output
      s.finish j isNew
      settle ("error writing " ++ shellQuoted j.target) done

/-- Make what has no content: a pipe, a device or a symbolic link. -/
def makeSpecial (s : CopyStyle) (j : CopyJob) : Task Bool := do
  let make (kind : String) (content : Content) : Task Bool := do
    let made ← Task.change fun files cwd => do
      files.checkPlain cwd j.target
      return (← files.create cwd j.target (j.node.mode &&& 0o777) fun _ => content).2
    settle ("cannot create " ++ kind ++ " " ++ shellQuoted j.target) made
  let done ← match j.node.content with
    | .fifo _ => do make "fifo" (.fifo (← Task.call (Call.newPipe {})))
    | .symbolic path => do
      let force (files : FileSystem) (cwd : Inode) : FileSystem :=
        if s.forced then (files.removeFile cwd j.target).toOption.getD files else files
      settle ("cannot create symbolic link " ++ shellQuoted j.target)
        (← Task.change fun files cwd => (force files cwd).makeSymbolic cwd j.target path)
    | content => make "special file" content
  if done then s.finish j true
  return done

/-- Make a symbolic link that leads to the source. -/
def linkSymbolic (j : CopyJob) : Task Bool := do
  let (files, cwd) ← Task.place
  let isHere := (files.resolveParent cwd j.target).toOption.any fun p => p.1 = cwd
  if j.source.toList.head? ≠ some '/' && !isHere then
    refuse (forShell j.target ++ ": can make relative symbolic links only in current directory")
  else
    settle ("cannot create symbolic link " ++ shellQuoted j.target ++ " to " ++ shellQuoted j.source)
      (← Task.change fun files cwd => files.makeSymbolic cwd j.target j.source)

/-- Give a node one more name, which on request replaces another one. -/
def linkHard (replaces : Bool) (i : Inode) (j : CopyJob) (source : String) : Task Bool := do
  let made ← Task.change fun files cwd =>
    let cleared := if replaces then (files.removeFile cwd j.target).toOption.getD files else files
    cleared.makeLink cwd i j.target
  settle ("cannot create hard link " ++ shellQuoted j.target ++ " to " ++ shellQuoted source) made

/-! ## What is in the way -/

/-- What is to be done with a destination. -/
inductive Way where
  /-- Nothing, and whether that is fine. -/
  | done (ok : Bool)
  /-- Something is made of the source: whether there is nothing yet, and what was put aside. -/
  | goesOn (isNew : Bool) (backup? : Option String)

/-- Whether a symbolic link at a destination is itself in the way, and not what it leads to. -/
def seesLinks (s : CopyStyle) (n : Node) : Bool :=
  (!n.isFile && (!s.asFiles || n.isDirectory || n.isSymbolic)) || s.making ≠ .copies || s.putsAside
    || s.clears

/-- Deal with what is at a destination already. -/
def clearWay (s : CopyStyle) (made : List (Inode × String)) (j : CopyJob) : Task Way := do
  let (files, cwd) ← Task.place
  let found := if s.seesLinks j.node then files.resolveLink cwd j.target else files.resolve cwd j.target
  match found with
  | .error .noEntry => return .goesOn true none
  | .error e => return .done (← settle ("cannot stat " ++ shellQuoted j.target) (.error e))
  | .ok i =>
    let old := files.node i
    let facing : Facing := { files, cwd, source := j.source, target := j.target }
    let approach : Approach :=
      { follows := s.following ≠ .none, linksHard := s.making = .hardLinks
        linksSymbolic := s.making = .symbolicLinks, clears := s.clears, putsAside := s.putsAside }
    let sameness := if s.replacement.keepsAll then Sameness.distinct else facing.compare approach
    if sameness = .same then
      return .done (← refuse (j.pair " and " ++ " are the same file"))
    if !j.node.isDirectory then
      if !(← s.replacement.replaces j.node old j.target) then return .done true
    if sameness = .settled then return .done true
    if let some complaint := j.mismatch? old then return .done (← refuse complaint)
    let backup := s.replacement.backup
    if !old.isDirectory && j.isOperand && backup.kind ≠ .numbered && made.contains (i, j.target) then
      return .done (← refuse ("will not overwrite just-created " ++ shellQuoted j.target ++ " with "
        ++ shellQuoted j.source))
    if old.isDirectory then return .goesOn false none
    if s.putsAside then
      if backup.endangers files cwd j.source j.target then
        return .done (← refuse ("backing up " ++ shellQuoted j.target ++ " might destroy source;  "
          ++ shellQuoted j.source ++ " not copied"))
      match ← backup.putAside j.target with
      | .error e => return .done (← settle ("cannot backup " ++ shellQuoted j.target) (.error e))
      | .ok backup? => return .goesOn true backup?
    let shares := s.keepsLinks && files.linkCount i > 1
    let isOther := s.following = .none && !j.node.isFile
    if s.clears || (!s.attributesOnly && (shares || isOther)) then
      match ← Task.change fun files cwd => files.removeFile cwd j.target with
      | .error e => return .done (← settle ("cannot remove " ++ shellQuoted j.target) (.error e))
      | .ok () =>
        let _ ← tell s.verbose ("removed " ++ shellQuoted j.target)
        return .goesOn true none
    return .goesOn false none

/-! ## Copying trees -/

/-- Note where a source goes, and tell where it went before. -/
def remember (i : Inode) (target : String) : Copying (Option String) := do
  let places := (← get).places
  if (places.lookup i).isNone then modify fun c => { c with places := (i, target) :: places }
  return places.lookup i

/-- Where a source went before, if it is to be known. -/
def earlier? (s : CopyStyle) (j : CopyJob) : Copying (Option String) := do
  let (files, _) ← Task.place
  if j.node.isDirectory then
    if j.isOperand then remember j.inode j.target else return (← get).places.lookup j.inode
  else
    let isShared := files.linkCount j.inode > 1 || s.follows j.isOperand
    if s.keepsLinks && s.making ≠ .hardLinks && isShared then remember j.inode j.target else return none

/-- Make what a file becomes. -/
def makeFile (s : CopyStyle) (j : CopyJob) (isNew : Bool) : Task Bool :=
  match s.making with
  | .symbolicLinks => linkSymbolic j
  | .hardLinks => linkHard (s.forced || s.replacement.overwriting = .asks) j.inode j j.source
  | .copies =>
    if j.node.isFile || (s.asFiles && !j.node.isSymbolic) then s.copyContent j isNew
    else s.makeSpecial j

/-- Copy a file, no directory. -/
def copyFile (s : CopyStyle) (j : CopyJob) (isNew : Bool) (backup? : Option String) : Copying Bool := do
  let _ ← tellPair s.verbose "" " -> " j.source j.target backup?
  match ← s.earlier? j with
  | some earlier =>
    let (files, cwd) ← Task.place
    linkHard true ((files.resolveLink cwd earlier).toOption.getD j.inode) j earlier
  | none =>
    if ← s.makeFile j isNew then
      let (files, cwd) ← Task.place
      if let .ok i := files.resolveLink cwd j.target then
        if j.isOperand then modify fun c => { c with made := (i, j.target) :: c.made }
      return true
    else
      BackupStyle.putBack backup? j.target
      modify fun c => { c with places := c.places.filter (·.1 ≠ j.inode) }
      return false

/-- Make the directory that a directory becomes, if there is none. -/
def makeDirectory (s : CopyStyle) (j : CopyJob) (isNew : Bool) : Copying Bool := do
  if !isNew then return true
  let made ← Task.change fun files cwd => files.makeDirectory cwd j.target (j.node.mode &&& 0o1777)
  match made with
  | .error e => settle ("cannot create directory " ++ shellQuoted j.target) (.error e)
  | .ok () =>
    let (files, cwd) ← Task.place
    if !(← get).hasTop then
      if let .ok i := files.resolve cwd j.target then
        let _ ← remember i j.target
        modify fun c => { c with hasTop := true }
    tellPair s.verbose "" " -> " j.source j.target none

/-- What stands against copying a directory: it is copied already, or a link leads back to it. -/
def checkDirectory (s : CopyStyle) (operand : CopyJob) (above : List Inode) (j : CopyJob) :
    Copying (Option Bool) := do
  let (files, cwd) ← Task.place
  match ← s.earlier? j with
  | some earlier =>
    if isSameName files cwd j.source earlier then
      modify fun c => { c with inItself := true }
      return some (← refuse ("cannot copy a directory, " ++ shellQuoted operand.source ++ ", into itself, "
        ++ shellQuoted operand.target))
    if isSameName files cwd j.target earlier then
      Task.complain ("warning: source directory " ++ shellQuoted operand.source ++ " specified more than once")
      return some true
    if !s.follows j.isOperand then
      return some (← refuse ("will not create hard link " ++ shellQuoted j.target ++ " to directory "
        ++ shellQuoted earlier))
  | none => pure ()
  if above.contains j.inode then
    return some (← refuse ("cannot copy cyclic symbolic link " ++ shellQuoted j.source))
  return none

/-- Copy what a path names to a destination, with all that is in it; at most `fuel` levels. It lies in
the directories `above`, in what an operand names; an operand has none above it. -/
def copyTree (s : CopyStyle) : (fuel : Nat) → (operand? : Option CopyJob) → (above : List Inode) →
    (source target : String) → Copying Bool
  | 0, _, _, _, _ => return false
  | fuel + 1, operand?, above, source, target => do
    let isOperand := operand?.isNone
    let (files, cwd) ← Task.place
    let found := if s.follows isOperand then files.resolve cwd source else files.resolveLink cwd source
    match found with
    | .error e => settle ("cannot stat " ++ shellQuoted source) (.error e)
    | .ok inode =>
      let opened? ← if s.follows isOperand then Task.node? source else pure none
      let job : CopyJob := { source, target, inode, node := opened?.getD (files.node inode), isOperand }
      let isDirectory := job.node.isDirectory
      if isDirectory && !s.recursive then
        return (← refuse ("-r not specified; omitting directory " ++ shellQuoted source))
      if isOperand then
        if !isDirectory && !s.putsAside && (← get).operands.contains (inode, source) then
          Task.complain ("warning: source file " ++ shellQuoted source ++ " specified more than once")
          return true
        modify fun c => { c with operands := (inode, source) :: c.operands }
      match ← s.clearWay (← get).made job with
      | .done ok => return ok
      | .goesOn isNew backup? =>
        if !isDirectory then return (← s.copyFile job isNew backup?)
        let operand := operand?.getD job
        if let some ok ← s.checkDirectory operand above job then return ok
        if !(← s.makeDirectory job isNew) then return false
        let (files, _) ← Task.place
        let names := ((files.node inode).directory?.map Directory.entries).getD []
        let inner := if s.following = .operands then { s with following := .none } else s
        let done ← (names.mergeSort fun a b => a.2 ≤ b.2).mapM fun (name, _) => do
          if (← get).inItself then return true
          copyTree inner fuel (some operand) (inode :: above) (Path.inside source name)
            (Path.inside target name)
        s.finish job isNew
        return done.all id

/-! ## Operands -/

/-- Make the directories above a destination like those above its source: whether that worked. They
are given by their paths from the source and from the destination. -/
def makeParents (s : CopyStyle) : List (String × String) → Task Bool
  | [] => return true
  | (source, target) :: rest => do
    match ← look source, ← look target with
    | .error e, _ => settle ("failed to get attributes of " ++ shellQuoted source) (.error e)
    | .ok _, .ok old =>
      if old.isDirectory then makeParents s rest
      else refuse (shellQuoted target ++ " exists but is not a directory")
    | .ok n, .error _ =>
      match ← Task.change fun files cwd => files.makeDirectory cwd target (n.mode &&& 0o1777) with
      | .error e => settle ("cannot make directory " ++ shellQuoted target) (.error e)
      | .ok () =>
        let (files, cwd) ← Task.place
        let inode := (files.resolve cwd target).toOption.getD FileSystem.root
        s.finish { source, target, inode, node := n, isOperand := false } true
        let _ ← tell s.verbose (source ++ " -> " ++ target)
        makeParents s rest

/-- The directories above a source, with their places above its destination; from the top down. -/
def parentPairs (source target : String) : List (String × String) :=
  let base := String.ofList (target.toList.take (target.length - source.length))
  let above (path : String) : List String :=
    let pieces := Path.pieces path.toList
    (List.range (pieces.length - 1)).map fun k => .ofList (Path.join (pieces.take (k + 1)))
  (above source).filterMap fun p => if p = "" then none else some (p, base ++ p)

/-- Copy one operand to its destination: whether that worked. -/
def copyOperand (s : CopyStyle) (source target : String) : Copying Bool := do
  modify fun c => { c with hasTop := false, inItself := false }
  let ready ← if s.withParents then s.makeParents (parentPairs (withoutSlashes source) target) else pure true
  if !ready then return false
  let (files, _) ← Task.place
  s.copyTree (files.nodes.size + 2) none [] source target

/-- Put a copy of a file beside it, where it was asked to be copied to itself and put aside. -/
def copyBeside (s : CopyStyle) (source : String) : Task (Option Bool) := do
  let (files, cwd) ← Task.place
  let isFile := (← Task.node? source).any Node.isFile
  match s.forced && isFile, s.replacement.backup.pathFor files cwd source with
  | true, some beside =>
    let plain := { s with replacement := { s.replacement with backup := {} } }
    let (ok, _) ← (plain.copyOperand source beside).run {}
    return some ok
  | _, _ => return none

end CopyStyle

/-- Copy files, and trees with `-r`: `cp [-abdfHilLnpPrRsTuv] [-S suffix] [-t directory] source…
target`. -/
def cp (args : List String) : Task Nat :=
  let table : OptionTable :=
    { flags := "abdfHilLnprRsuvxPTZ", valued := "tS"
      names := [("archive", "a"), ("dereference", "L"), ("force", "f"), ("interactive", "i"), ("link", "l"),
        ("no-clobber", "n"), ("no-dereference", "P"), ("no-target-directory", "T"),
        ("one-file-system", "x"), ("recursive", "R"), ("suffix", "S"), ("symbolic-link", "s"),
        ("target-directory", "t"), ("update", "u"), ("verbose", "v")]
      words := ["attributes-only", "copy-contents", "parents", "remove-destination",
        "strip-trailing-slashes"]
      valuedWords := ["no-preserve", "sparse"]
      openWords := ["backup", "context", "preserve", "reflink"] }
  withOptions table args fun a => do
    match CopyStyle.ofArguments (← read).environment a with
    | .error complaint => misuse complaint 1
    | .ok style =>
      let nameIn (source : String) : String :=
        if style.withParents then withoutSlashes source
        else if baseName source = ".." then "." else baseName source
      match ← readPairs a nameIn with
      | .error status => return status
      | .ok pairs =>
        if let [(source, target)] := pairs then
          if a.operands = [source, target] then
            if style.withParents then
              return (← misuse "with --parents, the destination must be a directory" 1)
            if source = target then
              if let some ok ← style.copyBeside source then return if ok then 0 else 1
        let (done, _) ← (pairs.mapM fun (source, target) => style.copyOperand source target).run {}
        return if done.all id then 0 else 1

end CommandSpec.Utility
