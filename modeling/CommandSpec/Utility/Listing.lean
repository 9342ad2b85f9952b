import CommandSpec.Machine.Account
import CommandSpec.Shell.Pattern
import CommandSpec.Text.Integer
import CommandSpec.Utility.Calendar
import CommandSpec.Utility.Columns
import CommandSpec.Utility.Mode
import CommandSpec.Utility.Outcome
import CommandSpec.Utility.Version

/-!
# `ls`

`ls` shows the names in directories, one on a line, in columns, or with `-l` a row about each of them.
Operands that are no directories come first; each directory has a heading when there are several, and
after `-R` also those below.
-/

namespace CommandSpec.Utility

/-! ## How a listing looks -/

/-- How names are laid out. -/
inductive ListFormat where
  | single
  | rows
  | commas
  | across
  | down
  deriving DecidableEq, Repr, Inhabited

/-- What the marks after names tell. -/
inductive MarkStyle where
  | none
  /-- Directories. -/
  | slash
  /-- The kinds of nodes. -/
  | kind
  /-- The kinds of nodes, and files that can be run. -/
  | all
  deriving DecidableEq, Repr, Inhabited

/-- How names with special characters are shown. -/
inductive NameQuoting where
  | literal
  | shell
  | shellAlways
  | shellEscape
  | shellEscapeAlways
  /-- Between double quotes. -/
  | double
  /-- With escapes, without quotes. -/
  | escape
  /-- Between single quotes. -/
  | single
  deriving DecidableEq, Repr, Inhabited

/-- What names are put in order by. -/
inductive ListKey where
  | name
  | none
  | time
  | size
  | ending
  | version
  | length
  deriving DecidableEq, Repr, Inhabited

/-- One of the times of a node. -/
inductive TimeKind where
  | modified
  | accessed
  | changed
  deriving DecidableEq, Repr, Inhabited

/-- How sizes are shown. -/
inductive SizeStyle where
  | plain
  /-- With a unit, in powers of a base. -/
  | units (base : Nat)
  /-- As so many blocks of a size, with a unit after the number. -/
  | blocks (size : Nat) (unit : String)
  deriving DecidableEq, Repr, Inhabited

/-- Which symbolic links are followed. -/
inductive LinkSight where
  | none
  /-- Operands that lead to directories. -/
  | directories
  | operands
  | all
  deriving DecidableEq, Repr, Inhabited

/-- Which names are left out. -/
inductive Omission where
  /-- Those that begin with a point. -/
  | hidden
  /-- The directory itself and the one above. -/
  | dots
  | nothing
  deriving DecidableEq, Repr, Inhabited

/-- How `ls` shows what it finds. -/
structure ListStyle where
  format : ListFormat := .single
  marks : MarkStyle := .none
  quoting : NameQuoting := .literal
  /-- Whether a `?` stands for what cannot be shown. -/
  masked : Bool := false
  sort : ListKey := .name
  reversed : Bool := false
  time : TimeKind := .modified
  size : SizeStyle := .plain
  sight : LinkSight := .directories
  omission : Omission := .hidden
  /-- Patterns of names that are left out. -/
  ignored : List (List Shell.PatternItem) := []
  /-- The formats of times that are not recent, and of those that are. -/
  timeFormats : String × String := ("%b %e  %Y", "%b %e %H:%M")
  owner : Bool := true
  group : Bool := true
  author : Bool := false
  numeric : Bool := false
  inodes : Bool := false
  blocks : Bool := false
  context : Bool := false
  recursive : Bool := false
  /-- Whether directories are shown as names. -/
  closedDirectories : Bool := false
  directoriesFirst : Bool := false
  lineLength : Nat := 80
  tab : Nat := 8
  /-- What ends a line. -/
  lineEnd : String := "\n"
  deriving Inhabited

namespace ListStyle

/-- The words for formats. -/
def formats : List (List String × ListFormat) :=
  [(["verbose", "long"], .rows), (["commas"], .commas), (["horizontal", "across"], .across),
    (["vertical"], .down), (["single-column"], .single)]

/-- The words for what names are put in order by. -/
def sortKeys : List (List String × ListKey) :=
  [(["none"], .none), (["time"], .time), (["size"], .size), (["extension"], .ending),
    (["version"], .version), (["width"], .length), (["name"], .name)]

/-- The words for times. -/
def timeKinds : List (List String × TimeKind) :=
  [(["atime", "access", "use"], .accessed), (["ctime", "status"], .changed),
    (["mtime", "modification"], .modified), (["birth", "creation"], .changed)]

/-- The words for ways to show names. -/
def quotings : List (List String × NameQuoting) :=
  [(["literal"], .literal), (["shell"], .shell), (["shell-always"], .shellAlways),
    (["shell-escape"], .shellEscape), (["shell-escape-always"], .shellEscapeAlways), (["c"], .double),
    (["c-maybe"], .double), (["escape"], .escape), (["locale"], .single), (["clocale"], .double)]

/-- The words for marks. -/
def markStyles : List (List String × MarkStyle) :=
  [(["none"], .none), (["slash"], .slash), (["file-type"], .kind), (["classify"], .all)]

/-- The words for when something is done; it is not done automatically. -/
def occasions : List (List String × Bool) :=
  [(["always", "yes", "force"], true), (["never", "no", "none"], false), (["auto", "tty", "if-tty"], false)]

/-- The formats that a word for times stands for, or the complaint. -/
def readTimeStyle (word : String) : Except String (String × String) := do
  if let '+' :: format := word.toList then
    match (String.ofList format).splitOn "\n" with
    | [old, recent] => return (old, recent)
    | _ => return (.ofList format, .ofList format)
  let plain := ("%b %e  %Y", "%b %e %H:%M")
  if word.toList.take 6 = "posix-".toList then return plain
  match word with
  | "full-iso" => return ("%Y-%m-%d %H:%M:%S.%N %z", "%Y-%m-%d %H:%M:%S.%N %z")
  | "long-iso" => return ("%Y-%m-%d %H:%M", "%Y-%m-%d %H:%M")
  | "iso" => return ("%Y-%m-%d ", "%m-%d %H:%M")
  | "locale" => return plain
  | _ =>
    throw ("invalid argument " ++ inQuotes word ++ " for 'time style'\nValid arguments are:\n"
      ++ "  - [posix-]full-iso\n  - [posix-]long-iso\n  - [posix-]iso\n  - [posix-]locale\n"
      ++ "  - +FORMAT (e.g., +%H:%M) for a 'date'-style format")

/-- How sizes are shown in blocks of an amount, or the complaint. -/
def readBlockSize (text : String) : Except String SizeStyle := do
  let digits := text.toList.takeWhile Char.isDigit
  let unit := String.ofList (text.toList.drop digits.length)
  let count := if digits.isEmpty then 1 else Text.numberIn 10 digits
  let shown := if digits.isEmpty then unit else ""
  let found := match unit with
    | "human-readable" => some (SizeStyle.units 1024)
    | "si" => some (.units 1000)
    | "" => some (.blocks count shown)
    | "K" => some (.blocks (count * 1024) shown)
    | "k" => some (.blocks (count * 1024) shown)
    | "KB" => some (.blocks (count * 1000) "kB")
    | "M" => some (.blocks (count * 1024 ^ 2) shown)
    | "MB" => some (.blocks (count * 1000 ^ 2) shown)
    | "G" => some (.blocks (count * 1024 ^ 3) shown)
    | _ => none
  match found with
  | some (.blocks 0 _) => throw ("invalid --block-size argument " ++ inQuotes text)
  | some style => return style
  | none => throw ("invalid --block-size argument " ++ inQuotes text)

/-- A number in the value of an option, or the complaint. -/
def readNumber (what text : String) : Except String Nat :=
  match Text.readDigits? text.toList with
  | some n => .ok n
  | none => .error ("invalid " ++ what ++ ": " ++ inQuotes text)

/-- The style in which rows are shown. -/
def withRows (s : ListStyle) : ListStyle :=
  { s with format := .rows }

/-- What one more option without a value changes. -/
def addFlag (s : ListStyle) : String → ListStyle
  | "1" => if s.format = .rows then s else { s with format := .single }
  | "a" => { s with omission := .nothing }
  | "A" => { s with omission := .dots }
  | "b" => { s with quoting := .escape }
  | "B" => { s with ignored := Shell.plainPattern "*~" :: Shell.plainPattern ".*~" :: s.ignored }
  | "c" => { s with time := .changed }
  | "C" => { s with format := .down }
  | "d" => { s with closedDirectories := true }
  | "f" => { s with omission := .nothing, sort := .none, blocks := false
                    format := if s.format = .rows then .single else s.format }
  | "F" => { s with marks := .all }
  | "g" => { s.withRows with owner := false }
  | "G" => { s with group := false }
  | "h" => { s with size := .units 1024 }
  | "H" => { s with sight := .operands }
  | "i" => { s with inodes := true }
  | "l" => s.withRows
  | "L" => { s with sight := .all }
  | "m" => { s with format := .commas }
  | "n" => { s.withRows with numeric := true }
  | "N" => { s with quoting := .literal }
  | "o" => { s.withRows with group := false }
  | "p" => { s with marks := .slash }
  | "q" => { s with masked := true }
  | "Q" => { s with quoting := .double }
  | "r" => { s with reversed := true }
  | "R" => { s with recursive := true }
  | "s" => { s with blocks := true }
  | "S" => { s with sort := .size }
  | "t" => { s with sort := .time }
  | "u" => { s with time := .accessed }
  | "U" => { s with sort := .none }
  | "v" => { s with sort := .version }
  | "x" => { s with format := .across }
  | "X" => { s with sort := .ending }
  | "Z" => { s with context := true }
  | "author" => { s with author := true }
  | "file-type" => { s with marks := .kind }
  | "full-time" => { s.withRows with timeFormats := ("%Y-%m-%d %H:%M:%S.%N %z", "%Y-%m-%d %H:%M:%S.%N %z") }
  | "group-directories-first" => { s with directoriesFirst := true }
  | "show-control-chars" => { s with masked := false }
  | "si" => { s with size := .units 1000 }
  | "zero" => { s with lineEnd := "\x00", quoting := .literal, masked := false
                       format := if s.format = .rows then .rows else .single }
  | _ => s

/-- What one more option changes, or what is wrong with it. -/
def addOption (s : ListStyle) (option : String × String) : Except String ListStyle := do
  match option with
  | ("I", text) => return { s with ignored := Shell.plainPattern text :: s.ignored }
  | ("hide", text) => return if s.omission = .hidden then { s with ignored := Shell.plainPattern text :: s.ignored } else s
  | ("w", text) => return { s with lineLength := ← readNumber "line width" text }
  | ("T", text) => return { s with tab := ← readNumber "tab size" text }
  | ("format", word) => return { s with format := ← readChoice "--format" word formats }
  | ("sort", word) => return { s with sort := ← readChoice "--sort" word sortKeys }
  | ("time", word) => return { s with time := ← readChoice "--time" word timeKinds }
  | ("time-style", word) => return { s with timeFormats := ← readTimeStyle word }
  | ("quoting-style", word) => return { s with quoting := ← readChoice "--quoting-style" word quotings }
  | ("indicator-style", word) => return { s with marks := ← readChoice "--indicator-style" word markStyles }
  | ("block-size", text) => return { s with size := ← readBlockSize text }
  | ("classify", "") => return { s with marks := .all }
  | ("classify", word) =>
    return if ← readChoice "--classify" word occasions then { s with marks := .all } else s
  | ("color", "") => return s
  | ("color", word) =>
    let _ ← readChoice "--color" word occasions
    return s
  | (flag, _) => return s.addFlag flag

/-- The style that options and the environment ask for, or what is wrong with them. -/
def ofArguments (environment : Environment) (a : Arguments) : Except String ListStyle := do
  let lineLength := ((environment.lookup "COLUMNS").bind fun t => Text.readDigits? t.toList).getD 80
  let timeFormats ← match environment.lookup "TIME_STYLE" with
    | some word =>
      if a.hasAny ["l", "g", "o", "n"] && word ≠ "" then readTimeStyle word
      else pure ({} : ListStyle).timeFormats
    | none => pure ({} : ListStyle).timeFormats
  -- What is shown decides which names are left out, so that comes first.
  let shows := a.options.filter fun o => o.1 = "a" || o.1 = "A" || o.1 = "f"
  let s ← (shows ++ a.options).foldlM addOption { lineLength, timeFormats }
  let isLong := s.format = .rows
  let sorts := a.hasAny ["f", "S", "t", "U", "v", "X", "sort"]
  let sight := if a.hasAny ["H", "L"] then s.sight
    else if s.closedDirectories || s.marks = .all || isLong then .none else .directories
  return { s with
    sight
    sort := if s.time ≠ .modified && !sorts && !isLong then .time else s.sort }

end ListStyle

/-! ## What is listed -/

/-- A name to show, with the node it stands for. -/
structure Listed where
  name : String
  inode : Inode
  /-- Whether the name is a symbolic link whose target was asked for and is not there. -/
  isBroken : Bool := false
  deriving Inhabited

/-- The mark after a name that tells what it stands for. -/
def markFor (marks : MarkStyle) (n : Node) : String :=
  match marks, n.content with
  | .none, _ => ""
  | _, .directory _ => "/"
  | .slash, _ => ""
  | _, .symbolic _ => "@"
  | _, .fifo _ => "|"
  | .all, .device _ => ""
  | .all, _ => if n.isExecutable then "*" else ""
  | .kind, _ => ""

/-- How many bytes a node holds, as `ls` tells it. -/
def shownSize (n : Node) : Nat :=
  match n.content with
  | .file bytes => bytes.size
  | .symbolic target => target.length
  | .directory _ => 4096
  | _ => 0

/-- The bytes that a node takes on the disk. -/
def diskSize (n : Node) : Nat :=
  match n.content with
  | .file bytes => (bytes.size + 4095) / 4096 * 4096
  | .directory _ => 4096
  | _ => 0

/-- The kind of a node as one letter. -/
def kindLetter (n : Node) : String :=
  match n.content with
  | .directory _ => "d"
  | .symbolic _ => "l"
  | .fifo _ => "p"
  | .device _ => "c"
  | _ => "-"

/-- The numbers of a device. -/
def deviceNumbers : Device → String
  | .null => "1, 3"
  | .zero => "1, 5"
  | .full => "1, 7"
  | .random => "1, 9"
  | .terminal => "5, 0"
  | .descriptor _ => "136, 0"

/-- Whether a name in a directory is left out. -/
def ListStyle.hides (s : ListStyle) (name : String) : Bool :=
  let isHidden := name.toList.head? = some '.'
  let matchesIgnored := s.ignored.any fun p =>
    (!isHidden || p.head? = some (.literal '.')) && Shell.matchesPattern p name.toList
  matchesIgnored || match s.omission with
    | .nothing => false
    | .dots => name = "." || name = ".."
    | .hidden => isHidden

/-- The node that a name in a directory is shown as. -/
def ListStyle.shownEntry (s : ListStyle) (files : FileSystem) (dir : Inode) (name : String) (i : Inode) :
    Listed :=
  if s.sight = .all then
    match files.walk FileSystem.maxLinks dir true [name] with
    | .ok j => { name, inode := j }
    | .error _ => { name, inode := i, isBroken := true }
  else { name, inode := i }

/-- The names that are shown of a directory. -/
def ListStyle.namesIn (s : ListStyle) (files : FileSystem) (i : Inode) : List Listed :=
  match (files.node i).directory? with
  | none => []
  | some d =>
    let dots := if d.linked || i = FileSystem.root then [(".", i), ("..", d.parent)] else []
    ((dots ++ d.entries).filter fun e => !s.hides e.1).map fun e => s.shownEntry files i e.1 e.2

/-! ## Order -/

/-- The part of a name from its last point on. -/
def nameEnding (name : String) : String :=
  let cs := name.toList
  let tail := (cs.reverse.takeWhile (· ≠ '.')).length
  if tail = cs.length then "" else .ofList (cs.drop (cs.length - tail - 1))

/-- The time of a node that is shown. -/
def ListStyle.timeOf (s : ListStyle) (n : Node) : Nat :=
  match s.time with
  | .modified => n.modified
  | .accessed => n.accessed
  | .changed => n.changed

/-- Names in the order in which they are shown. -/
def ListStyle.arrange (s : ListStyle) (files : FileSystem) (items : List Listed) : List Listed :=
  let node (l : Listed) : Node := files.node l.inode
  let byName := items.mergeSort fun x y => x.name ≤ y.name
  let sorted := match s.sort with
    | .none => items
    | .name => byName
    | .time => byName.mergeSort fun x y => s.timeOf (node x) ≥ s.timeOf (node y)
    | .size => byName.mergeSort fun x y => shownSize (node x) ≥ shownSize (node y)
    | .ending => byName.mergeSort fun x y => nameEnding x.name ≤ nameEnding y.name
    | .version => byName.mergeSort fun x y => compareVersions x.name.toList y.name.toList ≠ .gt
    | .length => byName.mergeSort fun x y => x.name.length ≤ y.name.length
  let ordered := if s.reversed && s.sort ≠ .none then sorted.reverse else sorted
  if s.directoriesFirst then
    let (directories, others) := ordered.partition fun l => (node l).isDirectory
    directories ++ others
  else ordered

/-! ## Names and sizes as texts -/

/-- A text with escapes for what cannot be shown; `special` are characters that need one too. -/
def escaped (special : List Char) (name : String) : String :=
  .ofList (name.toList.flatMap fun c =>
    if special.contains c then ['\\', c] else if isShowable c then [c] else escapeFor c)

/-- A name between single quotes as it is, for a shell. -/
def singleQuoted (name : String) : String :=
  "'" ++ "'\\''".intercalate (name.splitOn "'") ++ "'"

/-- A name as it is shown. -/
def ListStyle.quote (s : ListStyle) (name : String) : String :=
  let mask (text : String) : String :=
    if s.masked then .ofList (text.toList.map fun c => if isShowable c then c else '?') else text
  let isOdd := name.toList.contains '\x27'
  let plainly := if isOdd then shellQuoted name else singleQuoted name
  match s.quoting with
  | .literal => mask name
  | .shell => mask (if isPlainName name then name else plainly)
  | .shellAlways => mask plainly
  | .shellEscape => forShell name
  | .shellEscapeAlways => shellQuoted name
  | .double => "\"" ++ escaped ['"', '\\'] name ++ "\""
  | .escape => escaped [' ', '\\'] name
  | .single => showQuotations .bytes (inQuotes name)

/-- A size with a unit, rounded up: at most three digits, or two with a point between them. -/
def withUnit (base : Nat) : (fuel power : Nat) → Nat → String
  | 0, _, n => toString n
  | fuel + 1, power, n =>
    let unit := base ^ power
    let units := if base = 1000 then ["", "k", "M", "G", "T", "P", "E", "Z", "Y"]
      else ["", "K", "M", "G", "T", "P", "E", "Z", "Y"]
    let letter := (units[power]?).getD ""
    let tenths := (10 * n + unit - 1) / unit
    let whole := (n + unit - 1) / unit
    if power = 0 then if n < base then toString n else withUnit base fuel 1 n
    else if tenths < 100 then toString (tenths / 10) ++ "." ++ toString (tenths % 10) ++ letter
    else if whole < base then toString whole ++ letter
    else withUnit base fuel (power + 1) n

/-- A number of bytes as it is shown. -/
def ListStyle.sizeText (s : ListStyle) (bytes : Nat) : String :=
  match s.size with
  | .plain => toString bytes
  | .units base => withUnit base 9 0 bytes
  | .blocks size unit => toString ((bytes + size - 1) / size) ++ unit

/-- The room on the disk as it is shown. -/
def ListStyle.diskText (s : ListStyle) (bytes : Nat) : String :=
  match s.size with
  | .plain => toString (bytes / 1024)
  | _ => s.sizeText bytes

/-- The size of a node as it is shown. -/
def ListStyle.sizeOf (s : ListStyle) (n : Node) : String :=
  match n.content with
  | .device d => deviceNumbers d
  | _ => s.sizeText (shownSize n)

/-- The time of a node as it is shown: in another way if it was not in the last half year. -/
def ListStyle.timeText (s : ListStyle) (now : Nat) (n : Node) : String :=
  let moment := s.timeOf n
  let isRecent := moment ≤ now && now < moment + 15778476 * Date.tick
  Date.write (if isRecent then s.timeFormats.2 else s.timeFormats.1) moment

/-! ## Listings -/

/-- What stands before names: the number of a node, its room on the disk and its context. -/
def ListStyle.leads (s : ListStyle) (files : FileSystem) (items : List Listed) : List String :=
  let align (texts : List String) : List String :=
    if s.format = .commas then texts else texts.map (padLeft (widest texts))
  let inodes := align (items.map fun l => if l.isBroken then "?" else toString (l.inode + 2))
  let sizes := align (items.map fun l => if l.isBroken then "?" else s.diskText (diskSize (files.node l.inode)))
  (inodes.zip sizes).map fun (inode, size) =>
    (if s.inodes then inode ++ " " else "") ++ (if s.blocks then size ++ " " else "")

/-- What a row tells about a name: the name with its mark, and where it leads to. -/
def ListStyle.nameText (s : ListStyle) (files : FileSystem) (dir : Inode) (l : Listed) : String :=
  let n := files.node l.inode
  match s.format, n.content with
  | .rows, .symbolic target =>
    let targetMark := match files.walk FileSystem.maxLinks dir true (FileSystem.piecesOf l.name) with
      | .ok i => if s.marks = .slash then "" else markFor s.marks (files.node i)
      | .error _ => ""
    s.quote l.name ++ (if l.isBroken then "" else " -> " ++ s.quote target ++ targetMark)
  | _, _ => s.quote l.name ++ if l.isBroken then "" else markFor s.marks n

/-- The columns of a row before the name. -/
def ListStyle.rowParts (s : ListStyle) (files : FileSystem) (l : Listed) : List String :=
  let n := files.node l.inode
  let user := if s.numeric then toString n.user else Account.userName n.user
  let group := if s.numeric then toString n.group else Account.groupName n.group
  let known (text : String) : String := if l.isBroken then "?" else text
  [if l.isBroken then "l?????????" else kindLetter n ++ showMode n.mode,
      known (toString (files.linkCount l.inode))]
    ++ (if s.owner then [known user] else []) ++ (if s.group then [known group] else [])
    ++ (if s.author then [known user] else []) ++ [known (s.sizeOf n), known (s.timeText files.now n)]

/-- The lines that show some names, as seen from a directory. -/
def ListStyle.lines (s : ListStyle) (files : FileSystem) (dir : Inode) (items : List Listed) :
    List String :=
  let context := if s.context then "? " else ""
  let names := (s.leads files items).zip (items.map (s.nameText files dir))
  if s.format = .rows then
    let rows := items.map (s.rowParts files)
    let width (k : Nat) : Nat := widest (rows.map fun r => (r[k]?).getD "")
    let last := (rows.headD []).length - 1
    (names.zip rows).map fun ((lead, name), parts) =>
      let isLeft (k : Nat) : Bool := k = 0 || k = last || (1 < k && k + 1 < last)
      let aligned := parts.zipIdx.map fun (t, k) => (if isLeft k then padRight else padLeft) (width k) t
      lead ++ " ".intercalate aligned ++ " " ++ context ++ name
  else names.map fun (lead, name) => lead ++ context ++ name

/-- The text that shows some names, as seen from a directory. -/
def ListStyle.display (s : ListStyle) (files : FileSystem) (dir : Inode) (items : List Listed) : String :=
  let lines := s.lines files dir items
  match s.format with
  | .commas => withCommas s.lineLength 0 lines
  | .across => ({ across := true, lineLength := s.lineLength, tab := s.tab } : Layout).write lines
  | .down => ({ across := false, lineLength := s.lineLength, tab := s.tab } : Layout).write lines
  | _ => String.join (lines.map (· ++ s.lineEnd))

/-- The text that shows directories, each under its heading if they have headings; at most `fuel`
levels. -/
def ListStyle.displayDirectories (s : ListStyle) (files : FileSystem) (headed : Bool) :
    (fuel : Nat) → List Listed → List String
  | 0, _ => []
  | fuel + 1, directories => directories.flatMap fun here =>
    let items := s.arrange files (s.namesIn files here.inode)
    let total := sumOf (items.map fun l => if l.isBroken then 0 else diskSize (files.node l.inode))
    let hasTotal := s.format = .rows || s.blocks
    let text := (if headed then s.quote here.name ++ ":\n" else "")
      ++ (if hasTotal then "total " ++ s.diskText total ++ s.lineEnd else "")
      ++ s.display files here.inode items
    let isBelow (l : Listed) : Bool :=
      (files.node l.inode).isDirectory && l.name ≠ "." && l.name ≠ ".."
    let below := if !s.recursive then [] else
      (items.filter isBelow).map fun l => { l with name := Path.inside here.name l.name }
    text :: s.displayDirectories files headed fuel below

/-- The broken links in directories, as paths, whose targets were asked for. -/
def ListStyle.brokenBelow (s : ListStyle) (files : FileSystem) (directories : List Listed) :
    List String :=
  directories.flatMap fun here =>
    ((s.arrange files (s.namesIn files here.inode)).filter Listed.isBroken).map fun l =>
      if here.name = "." then l.name else Path.inside here.name l.name

/-- The node that an operand names. -/
def ListStyle.find (s : ListStyle) (files : FileSystem) (cwd : Inode) (path : String) :
    Except OsError Inode :=
  let itself := files.resolveLink cwd path
  let followed := files.resolve cwd path
  match s.sight with
  | .none => itself
  | .all => followed
  | .operands => followed
  | .directories =>
    match followed with
    | .ok i => if (files.node i).isDirectory then .ok i else itself
    | .error e => if e = .noEntry || e = .tooManyLinks then itself else .error e

/-- The options of `ls`. -/
def listOptions : OptionTable where
  flags := "1aAbBcCdDfFgGhHiklLmnNopqQrRsStuUvxXZ"
  valued := "ITw"
  names := [("all", "a"), ("almost-all", "A"), ("escape", "b"), ("ignore-backups", "B"), ("directory", "d"),
    ("dired", "D"), ("human-readable", "h"), ("dereference-command-line", "H"), ("inode", "i"),
    ("kibibytes", "k"), ("dereference", "L"), ("numeric-uid-gid", "n"), ("literal", "N"), ("no-group", "G"),
    ("hide-control-chars", "q"), ("quote-name", "Q"), ("reverse", "r"), ("recursive", "R"), ("size", "s"),
    ("context", "Z"), ("ignore", "I"), ("tabsize", "T"), ("width", "w")]
  words := ["author", "dereference-command-line-symlink-to-dir", "file-type", "full-time",
    "group-directories-first", "show-control-chars", "si", "zero"]
  valuedWords := ["block-size", "format", "hide", "indicator-style", "quoting-style", "sort", "time",
    "time-style"]
  openWords := ["classify", "color", "hyperlink"]

/-- Show operands, and what those of them hold that are directories. -/
def ListStyle.run (s : ListStyle) (operands : List String) : Task Nat := do
  let (files, cwd) ← Task.place
  for o in operands do
    if let .error e := s.find files cwd o then
      Task.complain ("cannot access " ++ shellQuoted o ++ ": " ++ e.wording)
  let found := operands.filterMap fun o =>
    (s.find files cwd o).toOption.map fun i => { name := o, inode := i : Listed }
  let isOpened (l : Listed) : Bool := (files.node l.inode).isDirectory && !s.closedDirectories
  let plain := s.arrange files (found.filter fun l => !isOpened l)
  let opened := s.arrange files (found.filter isOpened)
  let broken := if s.sight = .all then s.brokenBelow files opened else []
  for path in broken do
    Task.complain ("cannot access " ++ shellQuoted path ++ ": " ++ OsError.noEntry.wording)
  let headed := operands.length > 1 || s.recursive
  let first := s.display files cwd plain
  let texts := s.displayDirectories files headed files.nodes.size opened
  Task.print ("\n".intercalate ((if plain.isEmpty then [] else [first]) ++ texts))
  return if found.length < operands.length then 2 else if broken.isEmpty then 0 else 1

/-- Show what directories hold, in a style that options change. -/
def listIn (first : List String) (args : List String) : Task Nat :=
  withOptions listOptions (first ++ args) (fun a => do
    match ListStyle.ofArguments (← read).environment a with
    | .error complaint => misuse complaint 2
    | .ok style => style.run (if a.operands.isEmpty then ["."] else a.operands)) 2

/-- Show what directories hold: `ls [-1aAbBcCdfFgGhHilLmnNopqQrRsStuUvxXZ] [-I pattern] [-T n] [-w n]
[file…]`. -/
def ls (args : List String) : Task Nat :=
  listIn [] args

/-- Show what directories hold in columns. -/
def dir (args : List String) : Task Nat :=
  listIn ["-C", "-b"] args

/-- Show what directories hold in rows that tell all about it. -/
def vdir (args : List String) : Task Nat :=
  listIn ["-l", "-b"] args

end CommandSpec.Utility
