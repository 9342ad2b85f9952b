import CommandSpec.Machine.Account
import CommandSpec.Utility.Escape
import CommandSpec.Utility.Finding.Layout
import CommandSpec.Utility.Outcome

/-!
# `stat`

`stat` tells what is known of files: all of it, or what the letters of a format ask for.
-/

namespace CommandSpec.Utility

/-- A file that facts are told of. -/
structure FileFacts where
  path : String
  inode : Inode
  node : Node
  links : Nat
  deriving Inhabited

namespace FileFacts

/-- The bits that tell the kind of a node, before those for permissions. -/
def kindBits (n : Node) : Nat :=
  match n.content with
  | .directory _ => 0o040000
  | .symbolic _ => 0o120000
  | .fifo _ => 0o010000
  | .device _ => 0o020000
  | _ => 0o100000

/-- The two numbers of a device. -/
def device (n : Node) : String × String :=
  match n.content with
  | .device d =>
    match (deviceNumbers d).splitOn ", " with
    | [major, minor] => (major, minor)
    | _ => ("0", "0")
  | _ => ("0", "0")

/-- A moment as a date with its fraction and zone. -/
def showDate (moment : Nat) : String :=
  Date.write "%Y-%m-%d %H:%M:%S" moment ++ "." ++ .ofList (Text.paddedDigits 10 6 (moment % Date.tick)) ++ "000 +0000"

/-- A moment in seconds, with so many digits after the point if a precision is told. -/
def showSeconds (precision : Option Nat) (moment : Nat) : String :=
  let whole := toString (moment / Date.tick)
  match precision with
  | none => whole
  | some 0 => whole
  | some n =>
    let digits := Text.paddedDigits 10 6 (moment % Date.tick)
    whole ++ "." ++ .ofList (digits.take n ++ List.replicate (n - 6) '0')

/-- A number in a base, with a mark before it if that is asked for. -/
def inBase (base : Nat) (flags : List Char) (n : Nat) : String :=
  let digits := String.ofList (Nat.toDigits base n)
  if !flags.contains '#' || n = 0 then digits
  else (if base = 16 then "0x" else "0") ++ digits

/-- What is told for a letter: a number or a text. -/
def tell (f : FileFacts) (letter : Char) (flags : List Char) (precision : Option Nat) : String × Bool :=
  let n := f.node
  let number (n : Nat) : String × Bool := (toString n, true)
  let text (s : String) : String × Bool := (s, false)
  match letter with
  | 'a' => (inBase 8 flags n.mode, true)
  | 'A' => text (kindLetter n ++ showMode n.mode)
  | 'b' => number (diskSize n / 512)
  | 'B' => number 512
  | 'd' => number 52
  | 'D' => (inBase 16 flags 52, true)
  | 'f' => (inBase 16 flags (kindBits n ||| n.mode), true)
  | 'F' => text (describeKind n)
  | 'g' => number n.group
  | 'G' => text (Account.groupName n.group)
  | 'h' => number f.links
  | 'i' => number (f.inode + 2)
  | 'm' => text "/"
  | 'n' => text f.path
  | 'N' => text (match n.content with
    | .symbolic target => shellQuoted f.path ++ " -> " ++ shellQuoted target
    | _ => shellQuoted f.path)
  | 'o' => number 4096
  | 's' => number (shownSize n)
  | 't' => (inBase 16 flags ((Text.readNumber? (device n).1).getD 0), true)
  | 'T' => (inBase 16 flags ((Text.readNumber? (device n).2).getD 0), true)
  | 'u' => number n.user
  | 'U' => text (Account.userName n.user)
  | 'w' => text (showDate n.changed)
  | 'W' => (showSeconds precision n.changed, true)
  | 'x' => text (showDate n.accessed)
  | 'X' => (showSeconds precision n.accessed, true)
  | 'y' => text (showDate n.modified)
  | 'Y' => (showSeconds precision n.modified, true)
  | 'z' => text (showDate n.changed)
  | 'Z' => (showSeconds precision n.changed, true)
  | _ => text "?"

/-- What is told for a letter, in a field. -/
def field (f : FileFacts) (letter : Char) (flags : List Char) (width precision : Option Nat) : String :=
  let (text, isNumber) := f.tell letter flags precision
  if isNumber then Finding.numberField flags width text else Finding.inField flags width precision text

/-- What a format tells of a file; at most `fuel` steps. -/
def write (f : FileFacts) : (fuel : Nat) → List Char → List Char
  | 0, _ => []
  | _ + 1, [] => []
  | _ + 1, ['%'] => ['%']
  | fuel + 1, '%' :: '%' :: cs => '%' :: write f fuel cs
  | fuel + 1, '%' :: cs =>
    let flags := cs.takeWhile "-+#0 \x27".toList.contains
    let cs := cs.drop flags.length
    let width := cs.takeWhile Char.isDigit
    let cs := cs.drop width.length
    let (precision, cs) := match cs with
      | '.' :: rest =>
        let digits := rest.takeWhile Char.isDigit
        (some ((Text.readNumberIn? 10 digits).getD 0), rest.drop digits.length)
      | cs => (none, cs)
    match cs with
    | [] => ['%']
    | letter :: rest =>
      (f.field letter flags (Text.readNumberIn? 10 width) precision).toList ++ write f fuel rest
  | fuel + 1, c :: cs => c :: write f fuel cs

/-- The name of a file, with where it leads to. -/
def title (f : FileFacts) : String :=
  match f.node.content with
  | .symbolic target => forShell f.path ++ " -> " ++ forShell target
  | _ => forShell f.path

/-- The format for all that is known, after the name. -/
def fullFormat (n : Node) : String :=
  let places := match n.content with
    | .device _ => "Device: 0,52\tInode: %-10i  Links: %-5h Device type: " ++ (device n).1 ++ "," ++ (device n).2
    | _ => "Device: 0,52\tInode: %-10i  Links: %h"
  "  Size: %-10s\tBlocks: %-10b IO Block: %-6o %F\n" ++ places ++ "\n"
    ++ "Access: (%04a/%10.10A)  Uid: (%5u/%8U)   Gid: (%5g/%8G)\n"
    ++ "Access: %x\nModify: %y\nChange: %z\n Birth: %w\n"

/-- The format for all that is known in one line. -/
def terseFormat : String :=
  "%n %s %b %f %u %g %D %i %h %t %T %X %Y %Z %W %o\n"

/-- What a format tells of a file. -/
def show' (f : FileFacts) (format : String) : String :=
  .ofList (f.write (format.length + 1) format.toList)

end FileFacts

/-- The facts of what a path names, or why there are none. -/
def factsOf (follows : Bool) (path : String) : Task (Except String FileFacts) := do
  let (files, cwd) ← Task.place
  if path = "-" then
    match ← Task.call (Call.file? 0) with
    | none => return .error "cannot stat standard input: Bad file descriptor"
    | some (_, f) => return .ok { path, inode := 0, node := Task.nodeOf files f.stream, links := 1 }
  match if follows then files.resolve cwd path else files.resolveLink cwd path with
  | .ok i => return .ok { path, inode := i, node := files.node i, links := files.linkCount i }
  | .error e => return .error ("cannot statx " ++ shellQuoted path ++ ": " ++ e.wording)

/-- Tell what is known of files: `stat [-Lt] [-c format] [--printf=format] file…`. -/
def stat (args : List String) : Task Nat :=
  let table : OptionTable :=
    { flags := "Lft", valued := "c", valuedWords := ["printf", "cached"]
      names := [("dereference", "L"), ("file-system", "f"), ("terse", "t"), ("format", "c")] }
  withOptions table args fun a => do
    if a.operands.isEmpty then return (← misuse "missing operand" 1)
    forOperands a.operands fun path => do
      match ← factsOf (a.has "L") path with
      | .error complaint => refuse complaint
      | .ok f =>
        match a.last? ["c", "printf"] with
        | some ("c", format) => Task.print (f.show' format ++ "\n")
        | some (_, format) =>
          Task.print (f.show' ((EscapeRules.unescape { hexadecimal := true, quote := true } format).1))
        | none =>
          if a.has "t" then Task.print (f.show' FileFacts.terseFormat)
          else Task.print ("  File: " ++ f.title ++ "\n" ++ f.show' (FileFacts.fullFormat f.node))
        return true

end CommandSpec.Utility
