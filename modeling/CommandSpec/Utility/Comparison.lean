import CommandSpec.Shell.Pattern
import CommandSpec.Utility.Calendar
import CommandSpec.Utility.Comparison.Columns
import CommandSpec.Utility.Names
import CommandSpec.Utility.Outcome

/-!
# `diff`

`diff` shows how two texts differ, or the texts of the same name in two directories. A text that is not
there can be taken as empty. In the end the status is 0 if all is the same, 1 if not and 2 if something
could not be compared.
-/

namespace CommandSpec.Utility

namespace Comparison

/-- What `diff` is asked to do. -/
structure Inquiry where
  style : Style := .normal
  layout : Layout := {}
  columns : Columns := {}
  method : Method := {}
  triviality : Triviality := {}
  /-- Whether it is only told that texts differ. -/
  brief : Bool := false
  /-- Whether it is told that texts are the same. -/
  tellsSame : Bool := false
  recursive : Bool := false
  /-- Whether a first and a second text that is not there counts as empty. -/
  emptyFirst : Bool := false
  emptySecond : Bool := false
  /-- Whether anything is taken as text. -/
  anyText : Bool := false
  dropsReturns : Bool := false
  followsLinks : Bool := true
  labels : List String := []
  /-- The names that are left out of directories. -/
  omitted : List (List Shell.PatternItem) := []
  /-- The first name in directories that is not left out. -/
  from? : Option String := none
  /-- The options as they were given. -/
  command : List String := []
  deriving Inhabited

/-- What a name stands for. -/
inductive Standing where
  /-- Nothing, and it counts as empty. -/
  | absent
  | input
  | node (i : Inode) (n : Node)
  | fault (e : OsError)
  deriving Inhabited

namespace Standing

/-- Whether it is a directory. -/
def isDirectory : Standing → Bool
  | node _ n => n.isDirectory
  | _ => false

/-- Whether there is something. -/
def isThere : Standing → Bool
  | input => true
  | node .. => true
  | _ => false

/-- Whether it is absent. -/
def isAbsent : Standing → Bool
  | absent => true
  | _ => false

/-- Whether it is an ordinary file or a link, or counts as one. -/
def isPlain : Standing → Bool
  | node _ n => n.isFile || n.isSymbolic
  | absent => true
  | _ => false

end Standing

/-- A name with what it stands for. -/
structure Side where
  name : String
  standing : Standing
  deriving Inhabited

/-- A name as it stands in a heading: in quotes if it has blanks, quotes or characters that cannot be shown. -/
def headingName (name : String) : String :=
  let isSpecial (c : Char) : Bool := !isShowable c || c = '"' || c = '\\'
  if name.toList.any fun c => c = ' ' || isSpecial c then
    let written (c : Char) : List Char :=
      if c = '"' || c = '\\' then ['\\', c] else if isShowable c then [c] else escapeFor c
    "\"" ++ .ofList (name.toList.flatMap written) ++ "\""
  else name

namespace Inquiry

/-- What a name stands for at the moment. -/
def standing (q : Inquiry) (name : String) : Task Standing := do
  if name = "-" then return .input
  let (files, cwd) ← Task.place
  return match if q.followsLinks then files.resolve cwd name else files.resolveLink cwd name with
    | .ok i => .node i (files.node i)
    | .error e => .fault e

/-- The names that two sides are told by. -/
def shown (q : Inquiry) (a b : Side) : String × String :=
  ((q.labels[0]?).getD a.name, (q.labels[1]?).getD b.name)

/-- The line at the head of the changes in one of two texts. -/
def headLine (q : Inquiry) (mark : String) (label : Option String) (s : Side) : Task String := do
  match label with
  | some label => return mark ++ " " ++ label ++ "\n"
  | none =>
    let moment ← match s.standing with
      | .node _ n => pure n.modified
      | .absent => pure 0
      | _ => Task.now
    let format := if q.style = .unified then "%Y-%m-%d %H:%M:%S.%N %z" else "%a %b %e %H:%M:%S %Y"
    return mark ++ " " ++ headingName s.name ++ "\t" ++ Date.write format moment ++ "\n"

/-- What stands before the changes between two texts. -/
def preamble (q : Inquiry) (isInside : Bool) (a b : Side) : Task String := do
  let (first, second) := q.shown a b
  let command := if isInside then
    " ".intercalate ("diff" :: q.command.map forShell ++ [headingName first, headingName second]) ++ "\n" else ""
  let heads (one two : String) : Task String := do
    return (← q.headLine one q.labels[0]? a) ++ (← q.headLine two q.labels[1]? b)
  match q.style with
  | .context => return command ++ (← heads "***" "---")
  | .unified => return command ++ (← heads "---" "+++")
  | _ => return command

/-- The content of a side. -/
def contentOf (s : Side) : Task (Except OsError String) :=
  match s.standing with
  | .absent => return .ok ""
  | .input => Task.readAll 0
  | _ => Task.slurp s.name

/-- How many bytes at the start of a text tell whether it is one. -/
def sniffedLength : Nat := 4096

/-- Whether the content of a file is no text. -/
def isBinary (q : Inquiry) (content : String) : Bool :=
  !q.anyText && (content.toList.take sniffedLength).contains (Char.ofNat 0)

/-- Whether every difference counts. -/
def isExact (q : Inquiry) : Bool :=
  let l := q.method.likeness
  !q.triviality.isUsed && !l.ignoresCase && !l.expandsTabs && !l.isLooseAtEnd && !q.dropsReturns

/-- Show how the contents of two sides differ. -/
def compareContents (q : Inquiry) (isInside : Bool) (a b : Side) (first second : String) : Task Nat := do
  let (nameA, nameB) := q.shown a b
  if q.isBinary first || q.isBinary second then
    if first = second then return 0
    Task.printLine ((if q.brief then "Files " else "Binary files ") ++ nameA ++ " and " ++ nameB ++ " differ")
    return 1
  if q.brief && q.isExact then
    if first = second then return 0
    Task.printLine ("Files " ++ nameA ++ " and " ++ nameB ++ " differ")
    return 1
  let linesA := linesOf q.dropsReturns (!q.style.showsOpenLines) first
  let linesB := linesOf q.dropsReturns (!q.style.showsOpenLines) second
  let changes := changesBetween q.method linesA linesB
  let ignores (c : Change) : Bool := q.triviality.ignores linesA linesB [c]
  let differs := !changes.all ignores
  if q.brief then
    if differs then Task.printLine ("Files " ++ nameA ++ " and " ++ nameB ++ " differ")
    return if differs then 1 else 0
  if q.style = .sideBySide then
    if differs || !q.columns.omitsCommon then
      Task.print ((← q.preamble isInside a b) ++ q.columns.showAll q.triviality linesA linesB changes)
  else if differs then
    Task.print ((← q.preamble isInside a b) ++ showChanges q.layout linesA linesB q.style q.triviality changes)
  let warn (name content : String) : Task Bool := do
    let isOpen := !q.style.showsOpenLines && content.toList.getLast?.any (· ≠ '\n')
    if isOpen then Task.complain (name ++ ": No newline at end of file\n")
    return isOpen
  let openA ← warn nameA first
  let openB ← warn nameB second
  return if openA || openB then 2 else if differs then 1 else 0

/-- Compare the texts of two sides. -/
def compareTexts (q : Inquiry) (isInside : Bool) (a b : Side) : Task Nat := do
  match ← contentOf a with
  | .error e => failWith 2 (a.name ++ ": " ++ e.wording)
  | .ok first =>
    let isSame := match a.standing, b.standing with
      | .input, .input => true
      | .node i _, .node j _ => i = j
      | _, _ => false
    match ← if isSame then pure (.ok first) else contentOf b with
    | .error e => failWith 2 (b.name ++ ": " ++ e.wording)
    | .ok second => q.compareContents isInside a b first second

/-- The kind of what a side stands for in words. -/
def kindOf (s : Side) : String :=
  match s.standing with
  | .node _ n => describeKind n
  | _ => "fifo"

/-- The names in a directory that are not left out, in order. -/
def namesIn (q : Inquiry) (s : Side) : List String :=
  match s.standing with
  | .node _ { content := .directory d, .. } =>
    let isKept (name : String) : Bool :=
      !q.omitted.any (fun p => Shell.matchesPattern p name.toList) && q.from?.all fun start => start ≤ name
    ((d.entries.map Prod.fst).filter isKept).mergeSort fun x y => !(y < x)
  | _ => []

/-- Compare two sides, of which one may be missing in the directories they are in; at most `fuel` levels of
directories. -/
def compareSides (q : Inquiry) : (fuel : Nat) → (parents : Option (String × String)) → Side → Side → Task Nat
  | 0, _, _, _ => return 2
  | fuel + 1, parents, a, b => do
    let isInside := parents.isSome
    let onlyIn (dir name : String) : Task Nat := do
      Task.printLine ("Only in " ++ dir ++ ": " ++ name)
      return 1
    let directories (a b : Side) : Task Nat := do
      let left := q.namesIn a
      let right := q.namesIn b
      let names := (left ++ right.filter (!left.contains ·)).mergeSort fun x y => !(y < x)
      let sideOf (s : Side) (present : List String) (name : String) : Task Side := do
        let path := Path.inside s.name name
        let standing ← if present.contains name then q.standing path else pure .absent
        return ⟨path, standing⟩
      names.foldlM (fun status name => do
        let isMissing := !left.contains name && !q.emptyFirst || !right.contains name && !q.emptySecond
        let found ←
          if isMissing then onlyIn (if left.contains name then a.name else b.name) name
          else compareSides q fuel (some (a.name, b.name)) (← sideOf a left name) (← sideOf b right name)
        return max status found) 0
    let complaints := [a, b].filterMap fun s => match s.standing with
      | .fault e => some (s.name ++ ": " ++ e.wording)
      | _ => none
    complaints.forM fun c => Task.complain c
    if !complaints.isEmpty then return 2
    let isSame := match a.standing, b.standing with
      | .node i _, .node j _ => i = j
      | .input, .input => true
      | _, _ => false
    let tellKinds : Task Nat := do
      let (nameA, nameB) := q.shown a b
      Task.printLine ("File " ++ nameA ++ " is a " ++ kindOf a ++ " while file " ++ nameB ++ " is a " ++ kindOf b)
      return 1
    let status ←
      if a.standing.isAbsent && b.standing.isAbsent then pure 0
      else if isSame && (q.style ≠ .sideBySide || q.columns.omitsCommon) then pure 0
      else if a.standing.isDirectory && b.standing.isDirectory then
        if isInside && !q.recursive then
          Task.printLine ("Common subdirectories: " ++ a.name ++ " and " ++ b.name)
          pure 0
        else directories a b
      else if a.standing.isDirectory || b.standing.isDirectory
          || (isInside && !(a.standing.isPlain && b.standing.isPlain)) then
        if a.standing.isAbsent || b.standing.isAbsent then
          if q.recursive && (a.standing.isDirectory || b.standing.isDirectory) then directories a b
          else
            let dirs := parents.getD ("", "")
            onlyIn (if a.standing.isAbsent then dirs.2 else dirs.1) (baseName a.name)
        else tellKinds
      else
        match a.standing, b.standing with
        | .node _ { content := .symbolic targetA, .. }, .node _ { content := .symbolic targetB, .. } =>
          if targetA = targetB then pure 0
          else
            Task.printLine ("Symbolic links " ++ a.name ++ " and " ++ b.name ++ " differ")
            pure 1
        | .node _ { content := .symbolic _, .. }, .node .. => tellKinds
        | .node .., .node _ { content := .symbolic _, .. } => tellKinds
        | _, _ => q.compareTexts isInside a b
    if status = 0 && q.tellsSame && !a.standing.isDirectory then
      let (nameA, nameB) := q.shown a b
      Task.printLine ("Files " ++ nameA ++ " and " ++ nameB ++ " are identical")
    return status

/-- Compare what two operands name. Of a directory and a file the file of the same name in the directory is
taken. -/
def compareOperands (q : Inquiry) (first second : String) : Task Nat := do
  let a : Side := ⟨first, ← q.standing first⟩
  let b : Side := ⟨second, ← q.standing second⟩
  let settled (s other : Side) (mayBeEmpty : Bool) : Side :=
    match s.standing with
    | .fault .noEntry => if mayBeEmpty && other.standing.isThere then { s with standing := .absent } else s
    | _ => s
  let a' := settled a b q.emptyFirst
  let b' := settled b a q.emptySecond
  let innerOf (dir file : Side) : Task Side := do
    let name := Path.inside dir.name (baseName file.name)
    return ⟨name, ← q.standing name⟩
  let hasFault := [a', b'].any fun s => match s.standing with
    | .fault _ => true
    | _ => false
  if hasFault || a'.standing.isAbsent || b'.standing.isAbsent
      || a'.standing.isDirectory = b'.standing.isDirectory then
    q.compareSides 1000 none a' b'
  else if a'.name = "-" || b'.name = "-" then failWith 2 "cannot compare '-' to a directory"
  else if a'.standing.isDirectory then q.compareSides 1000 none (← innerOf a' b') b'
  else q.compareSides 1000 none a' (← innerOf b' a')

end Inquiry

/-! ## Options -/

/-- The options of `diff`. -/
def options : OptionTable :=
  { flags := "0123456789abBcdeEfhHilnNpPqrstTuwyZ", valued := "CDFILSUWxX"
    names := [("brief", "q"), ("ed", "e"), ("exclude", "x"), ("exclude-from", "X"), ("expand-tabs", "t"),
      ("forward-ed", "f"), ("ifdef", "D"), ("ignore-all-space", "w"), ("ignore-blank-lines", "B"),
      ("ignore-case", "i"), ("ignore-matching-lines", "I"), ("ignore-space-change", "b"),
      ("ignore-tab-expansion", "E"), ("ignore-trailing-space", "Z"), ("initial-tab", "T"), ("label", "L"),
      ("minimal", "d"), ("new-file", "N"), ("paginate", "l"), ("rcs", "n"), ("recursive", "r"),
      ("report-identical-files", "s"), ("show-c-function", "p"), ("show-function-line", "F"),
      ("side-by-side", "y"), ("speed-large-files", "H"), ("starting-file", "S"), ("text", "a"),
      ("unidirectional-new-file", "P"), ("width", "W")]
    words := ["binary", "ignore-file-name-case", "left-column", "no-dereference", "no-ignore-file-name-case",
      "normal", "strip-trailing-cr", "suppress-blank-empty", "suppress-common-lines"]
    valuedWords := ["from-file", "to-file", "horizon-lines", "tabsize"]
    openWords := ["color", "context", "unified"]
    versionLetter := some 'v'
    edition := "(GNU diffutils) 3.8" }

/-- What was read of the options. -/
structure Choices where
  inquiry : Inquiry := {}
  style? : Option Style := none
  /-- Whether the number of lines around changes was given. -/
  contextGiven : Bool := false
  digits : List Char := []
  from? : Option String := none
  to? : Option String := none
  deriving Inhabited

namespace Choices

/-- Choose a style; it cannot be another one than before. -/
def choose (c : Choices) (style : Style) : Except String Choices :=
  match c.style? with
  | none => .ok { c with style? := some style }
  | some other => if other = style then .ok c else .error "conflicting output style options"

/-- A number in an option. -/
def number (kind value : String) : Except String Nat :=
  match Text.readNumber? value with
  | some n => .ok n
  | none => .error ("invalid " ++ kind ++ " '" ++ value ++ "'")

/-- Choose a style that shows lines around changes: at least so many as a text says, or three. -/
def around (c : Choices) (style : Style) (text : String) : Except String Choices := do
  let c ← c.choose style
  let n ← if text = "" then pure 3 else number "context length" text
  let layout := { c.inquiry.layout with context := max c.inquiry.layout.context n }
  return { c with inquiry := { c.inquiry with layout }, contextGiven := c.contextGiven || text ≠ "" }

/-- The expression that an option holds. -/
def expression (value : String) : Except String Regex.Pattern :=
  (Regex.Pattern.ofText .basicLines value.toList).mapError fun fault => value ++ ": " ++ fault.message

/-- What one more option asks for, or what is wrong with it. -/
def add (c : Choices) (option : String × String) : Except String Choices := do
  let q := c.inquiry
  let keep (q : Inquiry) : Except String Choices := .ok { c with inquiry := q }
  let like (f : Likeness → Likeness) : Except String Choices :=
    keep { q with method := { q.method with likeness := f q.method.likeness } }
  let lay (f : Layout → Layout) : Except String Choices := keep { q with layout := f q.layout }
  let inColumns (f : Columns → Columns) : Except String Choices := keep { q with columns := f q.columns }
  match option with
  | ("a", _) => keep { q with anyText := true }
  | ("b", _) => like fun l => { l with ignoresAmount := true }
  | ("B", _) => keep { q with triviality := { q.triviality with empties := true } }
  | ("c", _) => c.around .context ""
  | ("u", _) => c.around .unified ""
  | ("C", n) => c.around .context n
  | ("U", n) => c.around .unified n
  | ("context", n) => c.around .context n
  | ("unified", n) => c.around .unified n
  | ("d", _) => keep { q with method := { q.method with minimal := true } }
  | ("e", _) => c.choose .backwardCommands
  | ("E", _) => like fun l => { l with expandsTabs := true }
  | ("f", _) => c.choose .forwardCommands
  | ("F", value) =>
    let p ← expression value
    lay fun l => { l with headings := p :: l.headings }
  | ("i", _) => like fun l => { l with ignoresCase := true }
  | ("I", value) => keep { q with triviality := { q.triviality with patterns := (← expression value) :: q.triviality.patterns } }
  | ("L", label) =>
    if q.labels.length = 2 then throw "too many file label options"
    keep { q with labels := q.labels ++ [label] }
  | ("n", _) => c.choose .countedCommands
  | ("N", _) => keep { q with emptyFirst := true, emptySecond := true }
  | ("p", _) =>
    let p ← expression "^[[:alpha:]$_]"
    lay fun l => { l with headings := p :: l.headings }
  | ("P", _) => keep { q with emptyFirst := true }
  | ("q", _) => keep { q with brief := true }
  | ("r", _) => keep { q with recursive := true }
  | ("s", _) => keep { q with tellsSame := true }
  | ("S", name) => keep { q with from? := some name }
  | ("t", _) => keep { q with layout := { q.layout with expandsTabs := true }, columns := { q.columns with expandsTabs := true } }
  | ("T", _) => lay fun l => { l with tabAfterMark := true }
  | ("w", _) => like fun l => { l with ignoresAllSpace := true }
  | ("W", n) =>
    let width ← number "width" n
    if width = 0 then throw ("invalid width '" ++ n ++ "'")
    inColumns fun x => { x with width }
  | ("x", pattern) => keep { q with omitted := Shell.plainPattern pattern :: q.omitted }
  | ("y", _) => c.choose .sideBySide
  | ("Z", _) => like fun l => { l with ignoresEnd := true }
  | ("from-file", name) => return { c with from? := some name }
  | ("to-file", name) => return { c with to? := some name }
  | ("horizon-lines", n) =>
    keep { q with method := { q.method with horizon := max q.method.horizon (← number "horizon length" n) } }
  | ("left-column", _) => inColumns fun x => { x with leftOnly := true }
  | ("no-dereference", _) => keep { q with followsLinks := false }
  | ("normal", _) => c.choose .normal
  | ("strip-trailing-cr", _) => keep { q with dropsReturns := true }
  | ("suppress-blank-empty", _) => lay fun l => { l with bareEmpties := true }
  | ("suppress-common-lines", _) => inColumns fun x => { x with omitsCommon := true }
  | ("tabsize", n) =>
    let size ← number "tabsize" n
    if size = 0 then throw ("invalid tabsize '" ++ n ++ "'")
    keep { q with
      layout := { q.layout with tabSize := size }, columns := { q.columns with tabSize := size }
      method := { q.method with likeness := { q.method.likeness with tabSize := size } } }
  | (digit, _) =>
    if digit.toList.all Char.isDigit then return { c with digits := c.digits ++ digit.toList } else return c

/-- What the options ask for altogether. -/
def settle (c : Choices) : Inquiry :=
  let isPlain := c.style?.isNone
  let withHeadings := isPlain && !c.inquiry.layout.headings.isEmpty
  let style := c.style?.getD (if withHeadings then .context else .normal)
  let given := (Text.readNumber? (.ofList c.digits)).filter fun _ => style = .context || style = .unified
  let asked := if withHeadings then max 3 c.inquiry.layout.context else c.inquiry.layout.context
  let context := given.elim asked fun n => if c.contextGiven then max n asked else n
  let q := c.inquiry
  { q with
    style
    layout := { q.layout with context }
    method := { q.method with horizon := max q.method.horizon context }
    triviality := { q.triviality with blanks := q.method.likeness.isLooseAtEnd } }

end Choices

/-- The arguments that are no operands. -/
def optionWords (args operands : List String) : List String :=
  let drop (state : List String × List String) (arg : String) : List String × List String :=
    match state with
    | (kept, operand :: rest) => if arg = operand then (kept, rest) else (arg :: kept, operand :: rest)
    | (kept, []) => (arg :: kept, [])
  (args.reverse.foldl drop ([], operands.reverse)).1

end Comparison

open Comparison in
/-- Show how two files differ: `diff [option]… file file`. -/
def diff (args : List String) : Task Nat :=
  withOptionsOr Comparison.options (spokenHint 2) args fun a => do
    let fail (complaint : String) : Task Nat := do
      Task.complain complaint
      spokenHint 2
    match a.options.foldlM Choices.add {} with
    | .error complaint => if complaint = "too many file label options" then failWith 2 complaint else fail complaint
    | .ok c =>
      let words := optionWords args a.operands
      let q := { c.settle with command := words }
      let all (pairs : List (String × String)) : Task Nat :=
        pairs.foldlM (fun status (x, y) => do return max status (← q.compareOperands x y)) 0
      match c.from?, c.to?, a.operands with
      | some _, some _, _ => failWith 2 "--from-file and --to-file both specified"
      | some start, none, names => all (names.map fun name => (start, name))
      | none, some target, names => all (names.map fun name => (name, target))
      | none, none, [x, y] => q.compareOperands x y
      | none, none, _ :: _ :: extra :: _ => fail ("extra operand '" ++ extra ++ "'")
      | none, none, names =>
        fail ("missing operand after '" ++ ((words ++ names).getLast?.getD (← read).speaker) ++ "'")

end CommandSpec.Utility
