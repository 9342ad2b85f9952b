import CommandSpec.Machine.Account
import CommandSpec.Text.Integer
import CommandSpec.Utility.Outcome

/-!
# `id`, `uname` and other questions about who and where

All programs run as `root`, and there is no terminal.
-/

namespace CommandSpec.Utility

/-- The name of the user and of the group. -/
def userName : String := "root"

/-- Complain about the first operand of a program that takes none. -/
def withoutOperands (status : Nat) (a : Arguments) (run : Task Nat) : Task Nat :=
  match a.operands with
  | [] => run
  | extra :: _ => misuse ("extra operand " ++ inQuotes extra) status

/-- Tell that there is no terminal: `tty [-s]`. -/
def tty (args : List String) : Task Nat :=
  let table : OptionTable := { flags := "s", names := [("silent", "s"), ("quiet", "s")] }
  withOptions table args (fun a => withoutOperands 2 a do
    if !a.has "s" then Task.printLine "not a tty"
    return 1) 2

/-- What is known of the system, each with the letters that ask for it. -/
def systemFacts : List (Char × String) :=
  [ ('s', "Linux"), ('n', "localhost"), ('r', "6.1.0"), ('v', "#1 SMP"), ('m', "x86_64"), ('p', "unknown"),
    ('i', "unknown"), ('o', "GNU/Linux") ]

/-- Tell what is known of the system: `uname [-asnrvmpio]`. -/
def uname (args : List String) : Task Nat :=
  let table : OptionTable :=
    { flags := "asnrvmpio"
      names := [("all", "a"), ("kernel-name", "s"), ("sysname", "s"), ("nodename", "n"), ("kernel-release", "r"),
        ("release", "r"), ("kernel-version", "v"), ("machine", "m"), ("processor", "p"),
        ("hardware-platform", "i"), ("operating-system", "o")] }
  withOptions table args fun a => withoutOperands 1 a do
    let wanted := if a.letters.isEmpty then ['s'] else a.letters
    let all := wanted.contains 'a'
    let facts := systemFacts.filter fun f => if all then f.2 ≠ "unknown" else wanted.contains f.1
    Task.printLine (" ".intercalate (facts.map Prod.snd))
    return 0

/-- Tell the machine that the system runs on. -/
def arch (args : List String) : Task Nat :=
  withOptions {} args fun a => withoutOperands 1 a do
    Task.printLine "x86_64"
    return 0

/-- Tell who the user is. -/
def whoami (args : List String) : Task Nat :=
  withOptions {} args fun a => withoutOperands 1 a do
    Task.printLine userName
    return 0

/-- Tell that nobody has logged in. -/
def logname (args : List String) : Task Nat :=
  withOptions {} args fun a => withoutOperands 1 a do failWith 1 "no login name"

/-- Tell how many processors there are. -/
def nproc (args : List String) : Task Nat :=
  let table : OptionTable := { words := ["all"], valuedWords := ["ignore"] }
  withOptions table args fun a => withoutOperands 1 a do
    Task.printLine "1"
    return 0

/-- Tell the name of the machine. -/
def hostname (args : List String) : Task Nat :=
  withOptions { flags := "sfdiIA" } args fun _ => do
    Task.printLine "localhost"
    return 0

/-- The user that a name or a number stands for. -/
def accountOf? (text : String) : Option Account :=
  (Account.ofName? text).or ((Text.readDigits? text.toList).bind Account.ofNumber?)

/-- Tell the groups of users: `groups [user…]`. -/
def groups (args : List String) : Task Nat :=
  withOptions {} args fun a => do
    if a.operands.isEmpty then
      Task.printLine userName
      return 0
    forOperands a.operands fun user => do
      match Account.ofName? user with
      | some account =>
        Task.printLine (user ++ " : " ++ Account.groupName account.group)
        return true
      | none => refuse (inQuotes user ++ ": no such user")

/-- Tell what a user is called: `id [-agGnruz] [user…]`. -/
def identity (args : List String) : Task Nat :=
  let table : OptionTable :=
    { flags := "agGnruzZ"
      names := [("group", "g"), ("groups", "G"), ("name", "n"), ("real", "r"), ("user", "u"), ("zero", "z"),
        ("context", "Z")] }
  withOptions table args fun a => do
    let kinds := ["g", "G", "u", "Z"].filter a.has
    if kinds.length > 1 then return (← failWith 1 "cannot print \"only\" of more than one choice")
    if kinds.isEmpty && a.hasAny ["n", "r"] then
      return (← failWith 1 "cannot print only names or real IDs in default format")
    if kinds.isEmpty && a.has "z" then
      return (← failWith 1 "option --zero not permitted in default format")
    if kinds = ["Z"] then
      return (← failWith 1 "--context (-Z) works only on an SELinux/SMACK-enabled kernel")
    let tell (account : Account) : Task Bool := do
      let group := Account.groupName account.group
      let known (number : Nat) (name : String) : String := toString number ++ "(" ++ name ++ ")"
      let text :=
        if kinds.isEmpty then "uid=" ++ known account.user account.name ++ " gid=" ++ known account.group group
          ++ " groups=" ++ known account.group group
        else if kinds = ["u"] then (if a.has "n" then account.name else toString account.user)
        else if a.has "n" then group
        else toString account.group
      Task.print (text ++ if a.has "z" then "\x00" else "\n")
      return true
    if a.operands.isEmpty then
      let _ ← tell (Account.all.headD default)
      return 0
    forOperands a.operands fun user => do
      match accountOf? user with
      | some account => tell account
      | none => refuse (inQuotes user ++ ": no such user")

end CommandSpec.Utility
