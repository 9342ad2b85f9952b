import CommandSpec.Machine.Account
import CommandSpec.Text.Integer
import CommandSpec.Utility.Outcome

/-!
# `chown` and `chgrp`

Every file belongs to a user and to a group. `chown` gives files to another user, another group or both, and
`chgrp` to another group.
-/

namespace CommandSpec.Utility

/-- Who files are given to; each part has a number and the text that it was told by. -/
structure Ownership where
  user : Option (Nat × String) := none
  group : Option (Nat × String) := none
  deriving DecidableEq, Repr, Inhabited

namespace Ownership

/-- The number that a name stands for, or that is told with or without a plus. -/
def number? (known : Option Nat) (text : String) : Option Nat :=
  let cs := text.toList
  known.or ((Text.readDigits? (if cs.head? = some '+' then cs.drop 1 else cs)).filter (· < 2 ^ 32 - 1))

/-- The user that a text stands for. -/
def user? (text : String) : Option Nat :=
  number? ((Account.ofName? text).map Account.user) text

/-- The group that a text stands for. -/
def group? (text : String) : Option Nat :=
  number? (Account.groups.lookup text) text

/-- Read a user, a colon and a group, of which parts may be missing. -/
def read (text : String) : Except String Ownership := do
  let cs := text.toList
  let userText := String.ofList (cs.takeWhile (· ≠ ':'))
  let rest := cs.drop userText.length
  let user ← if userText = "" then pure none else
    match user? userText with
    | some n => pure (some (n, userText))
    | none => throw ("invalid user: " ++ inQuotes text)
  match rest with
  | [] => return { user }
  | [_] =>
    match Account.ofName? userText with
    | some account => return { user, group := some (account.group, Account.groupName account.group) }
    | none => if userText = "" then return {} else throw ("invalid spec: " ++ inQuotes text)
  | _ :: group =>
    match group? (.ofList group) with
    | some n => return { user, group := some (n, .ofList group) }
    | none => throw ("invalid group: " ++ inQuotes text)

/-- The user and the group of a node, as far as an ownership tells them. -/
def describe (o : Ownership) (user group : String) : String :=
  ":".intercalate ((if o.user.isSome then [user] else []) ++ if o.group.isSome then [group] else [])

end Ownership

/-- How files are given away. -/
structure OwnershipStyle where
  ownership : Ownership
  /-- Whether what changes is told as an ownership even if it is only the group. -/
  tellsOwnership : Bool := false
  /-- Whether a link itself is given away, and not what it leads to. -/
  keepsLinks : Bool := false
  recursive : Bool := false
  silent : Bool := false
  tellsAll : Bool := false
  tellsChanges : Bool := false
  deriving Inhabited

namespace OwnershipStyle

/-- Give one file away. -/
def give (s : OwnershipStyle) (path : String) : Task Bool := do
  let linked := s.keepsLinks || s.recursive
  match ← if linked then lookLink path else look path with
  | .error e =>
    if !s.silent then
      let isLink := (← Task.link? path).isSome
      Task.complain ((if isLink then "cannot dereference " else "cannot access ") ++ shellQuoted path ++ ": "
        ++ e.wording)
    return false
  | .ok n =>
    let o := s.ownership
    let user := (o.user.map Prod.fst).getD n.user
    let group := (o.group.map Prod.fst).getD n.group
    let _ ← Task.change fun files cwd => do
      let i ← if linked then files.resolveLink cwd path else files.resolve cwd path
      return files.amend i fun n => { n with user, group }
    let changed := user ≠ n.user || group ≠ n.group
    let isOwnership := o.user.isSome || (s.tellsOwnership && o.group.isSome)
    let o := if isOwnership then { o with user := some (o.user.getD (n.user, "")) } else o
    let what := if isOwnership then "ownership" else "group"
    let before := o.describe (Account.userName n.user) (Account.groupName n.group)
    let after := o.describe ((o.user.map Prod.snd).getD "") ((o.group.map Prod.snd).getD "")
    let text :=
      if o = {} then "ownership of " ++ shellQuoted path ++ " retained"
      else if changed then "changed " ++ what ++ " of " ++ shellQuoted path ++ " from " ++ before ++ " to " ++ after
      else what ++ " of " ++ shellQuoted path ++ " retained as " ++ after
    tell (s.tellsAll || (s.tellsChanges && changed)) text

/-- The paths at and below a path, each directory after what is in it; at most `fuel` levels. -/
def pathsUpTo (files : FileSystem) (cwd : Inode) : (fuel : Nat) → String → List String
  | 0, path => [path]
  | fuel + 1, path =>
    match (files.resolveLink cwd path).toOption.filter fun i => (files.node i).isDirectory with
    | none => [path]
    | some i => ((files.list i).flatMap fun name => pathsUpTo files cwd fuel (Path.inside path name)) ++ [path]

/-- Give files away. -/
def run (s : OwnershipStyle) (paths : List String) : Task Nat :=
  forOperands paths fun path => do
    let (files, cwd) ← Task.place
    let below := if s.recursive then pathsUpTo files cwd files.nodes.size path else [path]
    let done ← below.mapM s.give
    return done.all id

end OwnershipStyle

/-- Give files away as `read` reads it from the first operand. -/
def giveAway (tellsOwnership : Bool) (readOwnership : String → Except String Ownership) (ofNode : Node → Ownership)
    (args : List String) : Task Nat :=
  let table : OptionTable :=
    { flags := "cfhvRHLP", valuedWords := ["reference", "from"]
      words := ["dereference", "preserve-root", "no-preserve-root"]
      names := [("changes", "c"), ("silent", "f"), ("quiet", "f"), ("no-dereference", "h"), ("verbose", "v"),
        ("recursive", "R")] }
  withOptions table args fun a => do
    let reference? := a.value? "reference"
    let paths := if reference?.isSome then a.operands else a.operands.drop 1
    if paths.isEmpty then
      return (← if a.operands.isEmpty then misuse "missing operand" 1
        else misuse ("missing operand after " ++ inQuotes (a.operands.headD "")) 1)
    let ownership ← match reference? with
      | none => pure (readOwnership (a.operands.headD ""))
      | some path => do
        match ← look path with
        | .ok n => pure (.ok (ofNode n))
        | .error e => pure (.error ("failed to get attributes of " ++ shellQuoted path ++ ": " ++ e.wording))
    match ownership with
    | .error complaint => failWith 1 complaint
    | .ok ownership =>
      let told := (a.last? ["v", "c"]).map Prod.fst
      let s : OwnershipStyle :=
        { ownership, tellsOwnership, keepsLinks := a.has "h", recursive := a.has "R", silent := a.has "f"
          tellsAll := told = some "v", tellsChanges := told = some "c" }
      s.run paths

/-- Give files to a user, a group or both: `chown [-cfhvR] [user][:[group]] file…`. -/
def chown (args : List String) : Task Nat :=
  giveAway true Ownership.read
    (fun n => { user := some (n.user, Account.userName n.user), group := some (n.group, Account.groupName n.group) })
    args

/-- Give files to a group: `chgrp [-cfhvR] group file…`. -/
def chgrp (args : List String) : Task Nat :=
  let read (text : String) : Except String Ownership :=
    if text = "" then .ok {}
    else match Ownership.group? text with
      | some n => .ok { group := some (n, text) }
      | none => .error ("invalid group: " ++ inQuotes text)
  giveAway false read (fun n => { group := some (n.group, Account.groupName n.group) }) args

end CommandSpec.Utility
