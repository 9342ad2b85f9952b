import CommandSpec.Utility.Mode
import CommandSpec.Utility.Moment
import CommandSpec.Utility.Outcome

/-!
# `touch`, `mkdir` and `mkfifo`

These utilities make files, directories and pipes with names. `touch` also sets the times of files:
when they were last read, and when they were last changed.
-/

namespace CommandSpec.Utility

/-- The times to set: of the last read and of the last change. -/
structure FileTimes where
  accessed : Nat
  modified : Nat

/-- The times that the options of `touch` ask for, or what is wrong with them. -/
def touchTimes (a : Arguments) : Task (Except String FileTimes) := do
  let now ← Task.now
  let both (moment : Nat) : FileTimes := ⟨moment, moment⟩
  let invalid (text : String) : Except String FileTimes :=
    .error ("invalid date format " ++ inQuotes text)
  if let some stamp := a.value? "t" then
    return ((Date.readStamp? now stamp).map Date.moment).elim (invalid stamp) fun m => .ok (both m.toNat)
  let base ← match a.value? "r" with
    | none => pure (Except.ok (both now))
    | some path => do
      let found ← if a.has "h" then lookLink path else look path
      pure <| match found with
        | .ok n => .ok ⟨n.accessed, n.modified⟩
        | .error e => .error ("failed to get attributes of " ++ shellQuoted path ++ ": " ++ e.wording)
  match base, a.value? "d" with
  | .ok times, some text =>
    return match readMoment? times.accessed text, readMoment? times.modified text with
      | some accessed, some modified => .ok ⟨accessed.toNat, modified.toNat⟩
      | _, _ => invalid text
  | base, _ => return base

/-- Set times of one file, which is made if it is not there. -/
def touchOne (a : Arguments) (setsAccessed setsModified : Bool) (times : FileTimes) (path : String) :
    Task Bool := do
  if path = "-" then return true
  let mark (files : FileSystem) (i : Inode) : FileSystem :=
    files.amend i fun n => { n with
      accessed := if setsAccessed then times.accessed else n.accessed
      modified := if setsModified then times.modified else n.modified }
  let makes := !a.has "c" && !a.has "h"
  let isSlashed := path.toList.getLast? = some '/'
  let made ← Task.change fun files cwd => do
    match if a.has "h" then files.resolveLink cwd path else files.resolve cwd path with
    | .ok i => return mark files i
    | .error .noEntry =>
      if a.has "c" then return files
      if !makes || isSlashed then throw .noEntry
      let (i, files) ← files.fileFor FileSystem.maxLinks cwd path
      return mark files i
    | .error e => throw e
  settle ((if isSlashed || !makes then "setting times of " else "cannot touch ") ++ shellQuoted path) made

/-- Make files that are not there and set times of all:
`touch [-achm] [-d text] [-r file] [-t stamp] file…`. -/
def touch (args : List String) : Task Nat :=
  let table : OptionTable :=
    { flags := "acfhm", valued := "drt", valuedWords := ["time"]
      names := [("no-create", "c"), ("date", "d"), ("reference", "r"), ("no-dereference", "h")] }
  withOptions table args fun a => do
    let kind := (a.value? "time").map fun word =>
      readChoice "--time" word [(["atime", "access", "use"], true), (["mtime", "modify"], false)]
    if let some (.error complaint) := kind then return (← misuse complaint 1)
    let onlyAccessed := a.has "a" || kind.any fun k => k.toOption = some true
    let onlyModified := a.has "m" || kind.any fun k => k.toOption = some false
    if a.has "t" && a.hasAny ["d", "r"] then
      return (← misuse "cannot specify times from more than one source" 1)
    match ← touchTimes a with
    | .error e =>
      Task.complain e
      return 1
    | .ok times =>
      if a.operands.isEmpty then return (← misuse "missing file operand" 1)
      forOperands a.operands
        (touchOne a (onlyAccessed || !onlyModified) (onlyModified || !onlyAccessed) times)

/-! ## Directories and pipes -/

/-- The changes that a mode option asks for; none without one. -/
def modeOption? (a : Arguments) : Option (List ModeClause) :=
  (a.value? "m").elim (some []) ModeClause.read?

/-- Set the mode of what a path names. -/
def setMode (path : String) (mode : Nat) : Task (Except OsError Unit) :=
  Task.change fun files cwd => do
    return files.amend (← files.resolve cwd path) fun n => { n with mode }

/-- Every directory on the way to a path, the path last. -/
def prefixesOf (path : String) : List String :=
  let pieces := Path.pieces path.toList
  ((List.range pieces.length).map fun k => String.ofList (Path.join (pieces.take (k + 1)))).filter
    fun p => p ≠ "" && p.toList.getLast? ≠ some '/'

/-- Make the directories on the way to a path where they are missing. Who makes them can use those that
others follow in. -/
def makeOnTheWay (verbose : Bool) (path : String) : List String → Task Bool
  | [] => return true
  | part :: rest => do
    let shown := if rest.isEmpty then path else part
    let complaint := "cannot create directory " ++ shellQuoted shown
    let refused (e : OsError) : Task Bool := settle complaint (.error e)
    match ← Task.node? part with
    | some n =>
      if n.isDirectory then makeOnTheWay verbose path rest
      else refused (if rest.isEmpty then .alreadyExists else .notDirectory)
    | none =>
      match ← Task.change fun files cwd => files.makeDirectory cwd part 0o777 with
      | .ok () =>
        announce verbose ("created directory " ++ shellQuoted shown)
        if !rest.isEmpty then
          let _ ← Task.change fun files cwd => do
            return files.modify (← files.resolve cwd part) fun n => { n with mode := n.mode ||| 0o300 }
        makeOnTheWay verbose path rest
      | .error e => refused e

/-- Make directories: `mkdir [-pv] [-m mode] directory…`. -/
def mkdir (args : List String) : Task Nat :=
  let table : OptionTable :=
    { flags := "pvZ", valued := "m", openWords := ["context"]
      names := [("parents", "p"), ("verbose", "v"), ("mode", "m")] }
  withOptions table args fun a => do
    if a.operands.isEmpty then return (← misuse "missing operand" 1)
    if a.value? "context" ≠ none && a.value? "context" ≠ some "" then
      Task.complain "warning: ignoring --context; it requires an SELinux/SMACK-enabled kernel"
    match modeOption? a with
    | none =>
      Task.complain ("invalid mode " ++ inQuotes ((a.value? "m").getD ""))
      return 1
    | some clauses =>
      forOperands a.operands fun path => do
        let before ← Task.link? path
        let made ←
          if a.has "p" && path ≠ "" then makeOnTheWay (a.has "v") path (prefixesOf path)
          else
            match ← Task.change fun files cwd => files.makeDirectory cwd path 0o777 with
            | .ok () =>
              announce (a.has "v") ("created directory " ++ shellQuoted path)
              pure true
            | .error e => settle ("cannot create directory " ++ shellQuoted path) (.error e)
        if made && before.isNone && a.has "m" then
          let mask := (← Task.call Call.self).mask
          let handed := ((← Task.node? path).map Node.mode).getD 0 &&& 0o2000
          let _ ← setMode path (ModeClause.applyAll mask clauses true (0o777 ||| handed))
        return made

/-- Make pipes with names: `mkfifo [-m mode] name…`. -/
def mkfifo (args : List String) : Task Nat :=
  let table : OptionTable :=
    { flags := "Z", valued := "m", names := [("mode", "m")], openWords := ["context"] }
  withOptions table args fun a => do
    if a.operands.isEmpty then return (← misuse "missing operand" 1)
    let mask := (← Task.call Call.self).mask
    let mode? := (modeOption? a).map fun clauses => ModeClause.applyAll mask clauses false 0o666
    match mode? with
    | none =>
      Task.complain "invalid mode"
      return 1
    | some mode =>
      if mode > 0o777 then
        Task.complain "mode must specify only file permission bits"
        return 1
      forOperands a.operands fun path => do
        let pipe ← Task.call (Call.newPipe {})
        let made ← Task.change fun files cwd => do
          files.checkPlain cwd path
          let (i, files) ← files.create cwd path 0o666 fun _ => .fifo pipe
          return if a.has "m" then files.modify i fun n => { n with mode } else files
        settle ("cannot create fifo " ++ shellQuoted path) made

end CommandSpec.Utility
