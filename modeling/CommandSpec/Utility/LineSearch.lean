import CommandSpec.Shell.Pattern
import CommandSpec.Utility.Concatenation
import CommandSpec.Utility.LineMatch
import CommandSpec.Utility.Names

/-!
# `grep`

`grep` selects the lines of its inputs in which one of its patterns matches. It writes them, or the
matches in them, with what is known of their places, and on request lines around them; or it only counts
them, or tells which inputs have any. Directories can be searched with all that is in them.
-/

namespace CommandSpec.Utility

open Regex (Match Pattern LineRule)

/-- What is written about an input. -/
inductive SearchReport where
  | lines
  | parts
  | count
  /-- The name, if any line is selected. -/
  | name
  /-- The name, if no line is selected. -/
  | otherName
  | nothing
  deriving DecidableEq, Repr, Inhabited

/-- How inputs that hold NULs are taken. -/
inductive BinaryRule where
  | binary
  | text
  | withoutMatch
  deriving DecidableEq, Repr, Inhabited

/-- What becomes of directories. -/
inductive DirectoryRule where
  | read
  | recurse
  | skip
  deriving DecidableEq, Repr, Inhabited

/-- What `grep` is asked to do. -/
structure LineSearch where
  pattern : LinePattern := {}
  inverted : Bool := false
  report : SearchReport := .lines
  limit : Option Nat := none
  before : Nat := 0
  after : Nat := 0
  /-- Whether lines around selected ones were asked for. -/
  hasContext : Bool := false
  separator : Option String := some "--"
  numbered : Bool := false
  placed : Bool := false
  aligned : Bool := false
  titled : Bool := false
  /-- Whether a NUL follows a name. -/
  nulNames : Bool := false
  /-- Whether lines end in a NUL. -/
  nulLines : Bool := false
  binary : BinaryRule := .binary
  directories : DirectoryRule := .read
  skipsDevices : Bool := false
  /-- Whether symbolic links in directories are followed. -/
  follows : Bool := false
  silent : Bool := false
  colored : Bool := false
  label : String := "(standard input)"
  /-- The patterns that names of files have to match, or must not match. The last one that matches
  decides, or else the first one. -/
  names : List (Bool × List Shell.PatternItem) := []
  /-- The patterns that names of directories must not match. -/
  closedNames : List (List Shell.PatternItem) := []
  deriving Inhabited

namespace LineSearch

/-! ## Writing -/

/-- A text in a color, if there are colors. -/
def paint (s : LineSearch) (color text : String) : String :=
  if s.colored then "\x1b[" ++ color ++ "m\x1b[K" ++ text ++ "\x1b[m\x1b[K" else text

/-- A mark between parts of a line. -/
def mark (s : LineSearch) (c : Char) : String :=
  s.paint "36" c.toString

/-- What stands before a line: the name of the input, the number of the line and its place. `width` is
that of numbers. -/
def head (s : LineSearch) (name : String) (width : Nat) (c : Char) (number place : Nat) (isEmpty : Bool) :
    String :=
  let shown (n : Nat) : String :=
    let digits := toString n
    let width := if s.aligned then width else 0
    s.paint "32" (.ofList (List.replicate (width - digits.length) ' ') ++ digits) ++ s.mark c
  let title := if !s.titled then ""
    else s.paint "35" name ++ if s.nulNames then "\x00" else s.mark c
  let text := title ++ (if s.numbered then shown number else "") ++ (if s.placed then shown place else "")
  if s.aligned && !isEmpty && text ≠ "" then text ++ "\t" else text

/-- A line with its matches in color. -/
def paintMatches (s : LineSearch) (line : List Char) : String :=
  let found := s.pattern.findAll line (line.length + 2) 0
  let rec go (place : Nat) : List Match → String
    | [] => .ofList (line.drop place)
    | m :: rest =>
      .ofList ((line.drop place).take (m.start - place))
        ++ s.paint "01;31" (.ofList ((line.drop m.start).take (m.stop - m.start))) ++ go m.stop rest
  go 0 found

/-- What has become of an input so far. -/
structure State where
  /-- The number of the next line. -/
  number : Nat := 1
  /-- The place of the next line. -/
  place : Nat := 0
  selected : Nat := 0
  /-- The last lines that were not written, the latest first. -/
  held : List (Nat × Nat × List Char) := []
  /-- How many lines after a selected one are still to be written. -/
  following : Nat := 0
  /-- The number of the line after the last one that was written. -/
  written : Nat := 1
  isBinary : Bool := false
  deriving Inhabited

/-- The character that ends lines. -/
def ending (s : LineSearch) : String :=
  if s.nulLines then "\x00" else "\n"

/-- A line as it is written. -/
def showLine (s : LineSearch) (name : String) (width : Nat) (isSelected : Bool) (number place : Nat)
    (line : List Char) : String :=
  let c := if isSelected then ':' else '-'
  if s.report = .parts then
    if !isSelected || s.inverted then ""
    else String.join ((s.pattern.findAll line (line.length + 2) 0).map fun m =>
      s.head name width c number (place + m.start) false
        ++ s.paint "01;31" (.ofList ((line.drop m.start).take (m.stop - m.start))) ++ s.ending)
  else
    let isMatch := isSelected != s.inverted
    s.head name width c number place line.isEmpty
      ++ (if s.colored && isMatch then s.paintMatches line else .ofList line) ++ s.ending

/-! ## Searching inputs -/

/-- Whether lines are written. -/
def showsLines (s : LineSearch) : Bool :=
  s.report = .lines || s.report = .parts

/-- Whether one selected line tells all about an input. -/
def isSettled (s : LineSearch) (st : State) : Bool :=
  match s.report with
  | .name => st.selected > 0
  | .otherName => st.selected > 0
  | .nothing => st.selected > 0
  | .count => false
  | _ => st.isBinary && st.selected > 0

/-- Whether so many lines were selected as there may be. -/
def isFull (s : LineSearch) (st : State) : Bool :=
  s.limit.any (· ≤ st.selected)

/-- Act on one line: what is written, and the state after it. `used` tells whether lines were written
before, of other inputs too. -/
def take (s : LineSearch) (name : String) (width : Nat) (used : Bool) (st : State) (line : List Char) :
    String × State :=
  let next : State := { st with number := st.number + 1, place := st.place + line.length + 1 }
  let isSelected := !s.isFull st && ((s.pattern.find line 0).isSome != s.inverted)
  let shows := s.showsLines && !st.isBinary
  if isSelected then
    let held := (st.held.take s.before).reverse
    let first := (held.head?.map Prod.fst).getD st.number
    let isApart := s.hasContext && used && (st.written ≠ first || st.written = 1)
    let gap := (s.separator.filter fun _ => isApart).elim "" fun text => s.paint "36" text ++ "\n"
    let before := held.map fun (number, place, line) => s.showLine name width false number place line
    let text := gap ++ String.join before ++ s.showLine name width true st.number st.place line
    (if shows then text else "",
      { next with selected := st.selected + 1, held := [], following := s.after, written := st.number + 1 })
  else if st.following > 0 then
    (if shows then s.showLine name width false st.number st.place line else "",
      { next with following := st.following - 1, written := st.number + 1 })
  else ("", { next with held := if s.before = 0 then [] else ((st.number, st.place, line) :: st.held).take s.before })

/-- Act on lines until all is known: what is written, how much was not used if it ended early, and the
state. -/
def takeAll (s : LineSearch) (name : String) (width : Nat) :
    (used : Bool) → State → List (List Char) → String × Option Nat × State
  | _, st, [] => ("", none, st)
  | used, st, record :: rest =>
    let line := if record.getLast? = some (recordEnd s.nulLines) then record.dropLast else record
    if s.isSettled st || (s.isFull st && st.following = 0) then
      ("", some (sumOf ((record :: rest).map List.length)), st)
    else
      let (text, st) := s.take name width used st line
      let (more, unused?, st) := s.takeAll name width (used || st.selected > 0) st rest
      (text ++ more, unused?, st)

/-- The lines of a record of an input that holds NULs, which end lines there. -/
def cutAtNuls (s : LineSearch) (records : List (List Char)) : List (List Char) :=
  if s.nulLines then records
  else records.flatMap fun r =>
    let pieces := Text.cutAfter (· == Char.ofNat 0) r
    pieces.map fun p => if p.getLast? = some (Char.ofNat 0) then p.dropLast ++ ['\n'] else p

/-- What was found out about all inputs. -/
structure Found where
  any : Bool := false
  failed : Bool := false
  /-- Whether lines were written. -/
  used : Bool := false
  deriving Inhabited

/-- Complain about an input, unless that is not wanted. -/
def complain (s : LineSearch) (text : String) : Task Unit := do
  if !s.silent then Task.complain text

/-- The width of numbers that are aligned: enough for the size of the input. -/
def widthFor (s : LineSearch) (fd : Nat) : Task Nat := do
  let (files, _) ← Task.place
  let size := match ← Task.call (Call.file? fd) with
    | some (_, { stream := .file i _ _, .. }) => (files.node i).bytes.size + if s.numbered then 1 else 0
    | _ => 2 ^ 64 - 1
  return (toString size).length

/-- Search what a descriptor yields. -/
def searchOpened (s : LineSearch) (name : String) (fd : Nat) (found : Found) : Task Found := do
  if s.showsLines && s.limit.all (1 < ·) then
    if ← feedsItself fd then
      s.complain (name ++ ": input file is also the output")
      return { found with failed := true }
  let width ← s.widthFor fd
  let act (state : State × Bool) (records : List (List Char)) :
      Task ((State × Bool) × Option (Option Nat)) := do
    let (st, used) := state
    let hasNul := !s.nulLines && records.any fun r => r.contains (Char.ofNat 0)
    let isBinary := s.binary ≠ .text && (st.isBinary || hasNul)
    if isBinary && s.binary = .withoutMatch then
      return (({ st with isBinary, selected := 0 }, used), some none)
    let records := if isBinary then s.cutAtNuls records else records
    let (text, unused?, st) := s.takeAll name width used { st with isBinary } records
    Task.print text
    let used := used || st.selected > 0
    if s.isSettled st then return ((st, used), some none)
    let isOver := s.isFull st && st.following = 0
    return ((st, used), if isOver then some (some (unused?.getD 0)) else none)
  let ((st, used), fault) ← someRecords fd (recordEnd s.nulLines) act Task.patience [] ({}, found.used)
  if let some e := fault then
    s.complain (name ++ ": " ++ e.wording)
    return { found with failed := true, used }
  let any := st.selected > 0
  let nameLine : String := s.paint "35" name ++ if s.nulNames then "\x00" else "\n"
  match s.report with
  | .count =>
    let title := if !s.titled then ""
      else s.paint "35" name ++ if s.nulNames then "\x00" else s.mark ':'
    Task.printLine (title ++ toString st.selected)
  | .name => if any then Task.print nameLine
  | .otherName => if !any then Task.print nameLine
  | .nothing => pure ()
  | _ =>
    if st.isBinary && any then
      Task.complain (name ++ ": binary file matches")
  return { found with any := found.any || any, used }

/-- Whether an input with a name is left out. -/
def omits (s : LineSearch) (name : String) : Bool :=
  let isIn (p : List Shell.PatternItem) : Bool :=
    Shell.matchesPattern p (baseName name).toList || Shell.matchesPattern p name.toList
  match s.names.reverse.find? fun n => isIn n.2 with
  | some (isIncluded, _) => !isIncluded
  | none => (s.names.head?.map Prod.fst).getD false

/-- Whether a directory with a name is left out. -/
def omitsDirectory (s : LineSearch) (name : String) : Bool :=
  s.closedNames.any fun p =>
    Shell.matchesPattern p (baseName name).toList || Shell.matchesPattern p name.toList

/-- Whether the search is over because only its status counts. -/
def isOver (s : LineSearch) (found : Found) : Bool :=
  s.report = .nothing && found.any

/-- Search the file that a path names. -/
def searchFile (s : LineSearch) (path shown : String) (found : Found) : Task Found := do
  match ← Task.openPath path .read with
  | .error e =>
    s.complain (shown ++ ": " ++ e.wording)
    return { found with failed := true }
  | .ok fd =>
    let found ← s.searchOpened shown fd found
    Task.close fd
    return found

/-- Search what is at a path in a directory, with all that is in it, at most `fuel` levels deep. -/
def searchTree (s : LineSearch) : (fuel : Nat) → (path shown : String) → Found → Task Found
  | 0, _, _, found => return found
  | fuel + 1, path, shown, found => do
    let (files, cwd) ← Task.place
    match files.resolve cwd path with
    | .error e =>
      s.complain (shown ++ ": " ++ e.wording)
      return { found with failed := true }
    | .ok i =>
      if (files.node i).isDirectory then
        let names := (files.node i).directory?.elim [] fun d => d.entries.map Prod.fst
        names.foldlM (fun found name => do
          if s.isOver found then return found
          let inner := Path.inside path name
          let innerShown := if shown = "" then name else Path.inside shown name
          match ← Task.link? inner with
          | none => return found
          | some node =>
            if node.isSymbolic && !s.follows then return found
            let node := (← Task.node? inner).getD node
            if node.isDirectory then
              if s.omitsDirectory name then return found else searchTree s fuel inner innerShown found
            else if s.omits innerShown || !(node.isFile || node.isSymbolic) then return found
            else s.searchFile inner innerShown found) found
      else s.searchFile path shown found

/-- Search what an operand names. -/
def searchOperand (s : LineSearch) (operand : String) (found : Found) : Task Found := do
  if operand = "-" then s.searchOpened s.label 0 found
  else
    match ← Task.node? operand with
    | some node =>
      if node.isDirectory then
        match s.directories with
        | .skip => return found
        | .recurse =>
          if s.omitsDirectory (withoutSlash operand) then return found
          s.searchTree 1000 operand operand found
        | .read => s.searchFile operand operand found
      else if s.omits operand then return found
      else if s.skipsDevices && !node.isFile then return found
      else s.searchFile operand operand found
    | none => s.searchFile operand operand found
where
  /-- A path without the slashes at its end. -/
  withoutSlash (path : String) : String :=
    .ofList (path.toList.reverse.dropWhile (· = '/')).reverse

/-- Search all operands. -/
def searchAll (s : LineSearch) : List String → Found → Task Found
  | [], found => return found
  | operand :: rest, found => do
    let found ← s.searchOperand operand found
    if s.isOver found || (← Task.isRefused) then return found
    s.searchAll rest found

end LineSearch

/-! ## Options -/

/-- The options of `grep`. -/
def grepOptions : OptionTable :=
  { flags := "EFGPiywxzsvVbnHhoqaIrRLlcTZUu0123456789", valued := "efmABCdD"
    names := [("basic-regexp", "G"), ("extended-regexp", "E"), ("fixed-regexp", "F"),
      ("fixed-strings", "F"), ("perl-regexp", "P"), ("after-context", "A"), ("before-context", "B"),
      ("binary", "U"), ("byte-offset", "b"), ("context", "C"), ("count", "c"), ("devices", "D"),
      ("directories", "d"), ("file", "f"), ("files-with-matches", "l"), ("files-without-match", "L"),
      ("ignore-case", "i"), ("initial-tab", "T"), ("line-number", "n"), ("line-regexp", "x"),
      ("max-count", "m"), ("no-filename", "h"), ("no-messages", "s"), ("null", "Z"), ("null-data", "z"),
      ("only-matching", "o"), ("quiet", "q"), ("recursive", "r"), ("dereference-recursive", "R"),
      ("regexp", "e"), ("invert-match", "v"), ("silent", "q"), ("text", "a"),
      ("unix-byte-offsets", "u"), ("with-filename", "H"), ("word-regexp", "w")]
    edition := "(GNU grep) 3.8"
    words := ["no-group-separator", "no-ignore-case", "line-buffered"]
    valuedWords := ["group-separator", "binary-files", "exclude", "exclude-from", "exclude-dir", "include",
      "label"]
    openWords := ["color", "colour"] }

/-- How the patterns of `grep` are written. -/
inductive PatternKind where
  | basic
  | extended
  | fixed
  deriving DecidableEq, Repr, Inhabited

/-- The kind of patterns that options ask for, if they agree. -/
def PatternKind.ofArguments (default : PatternKind) (a : Arguments) : Except String PatternKind :=
  let chosen := (["G", "E", "F", "P"].filter a.has).eraseDups
  match chosen with
  | [] => .ok default
  | [letter] => .ok (if letter = "G" then .basic else if letter = "F" then .fixed else .extended)
  | _ => .error "conflicting matchers specified"

/-- A pattern of `grep`, or what is wrong with it. -/
def PatternKind.read (kind : PatternKind) (ignoresCase : Bool) (text : List Char) :
    Except RegexFault Regex :=
  match kind with
  | .fixed => .ok (text.foldr (fun c r => .seq (Regex.literal { ignoresCase } c) r) .empty)
  | .basic => Regex.ofText { RegexSyntax.basicLines with ignoresCase } text
  | .extended => Regex.ofText { RegexSyntax.extendedLines with ignoresCase } text

/-- A number of lines around selected ones. -/
def readContext (text : String) : Except String Nat :=
  match Text.readNumber? text with
  | some n => .ok n
  | none => .error (text ++ ": invalid context length argument")

/-- The number that a run of digits among options makes, the last run if there are several. -/
def digitContext (options : List (String × String)) : Option Nat :=
  let isDigit (o : String × String) : Bool := o.1.length = 1 && o.1.toList.all Char.isDigit
  let digits := ((options.reverse.dropWhile (!isDigit ·)).takeWhile isDigit).reverse
  if digits.isEmpty then none else some (Text.numberIn 10 (digits.flatMap fun o => o.1.toList))

namespace LineSearch

/-- What one more option asks for, or what is wrong with it. -/
def addOption (s : LineSearch) (option : String × String) : Except String LineSearch := do
  let color (word : String) : Except String LineSearch :=
    return { s with colored := ["always", "yes", "force"].contains word }
  match option with
  | ("w", _) => return { s with pattern := { s.pattern with words := true } }
  | ("x", _) => return { s with pattern := { s.pattern with whole := true } }
  | ("v", _) => return { s with inverted := true }
  | ("n", _) => return { s with numbered := true }
  | ("b", _) => return { s with placed := true }
  | ("T", _) => return { s with aligned := true }
  | ("Z", _) => return { s with nulNames := true }
  | ("z", _) => return { s with nulLines := true }
  | ("s", _) => return { s with silent := true }
  | ("a", _) => return { s with binary := .text }
  | ("I", _) => return { s with binary := .withoutMatch }
  | ("r", _) => return { s with directories := .recurse }
  | ("R", _) => return { s with directories := .recurse, follows := true }
  | ("A", text) => return { s with after := ← readContext text, hasContext := true }
  | ("B", text) => return { s with before := ← readContext text, hasContext := true }
  | ("m", text) =>
    match Text.readInteger? text.toList with
    | some n => return { s with limit := if n < 0 then none else some n.toNat }
    | none => throw "invalid max count"
  | ("d", word) =>
    let rules := [(["read"], DirectoryRule.read), (["recurse"], .recurse), (["skip"], .skip)]
    return { s with directories := ← readChoice "--directories" word rules }
  | ("D", word) =>
    match word with
    | "read" => return { s with skipsDevices := false }
    | "skip" => return { s with skipsDevices := true }
    | _ => throw "unknown devices method"
  | ("binary-files", word) =>
    match word with
    | "binary" => return { s with binary := .binary }
    | "text" => return { s with binary := .text }
    | "without-match" => return { s with binary := .withoutMatch }
    | _ => throw "unknown binary-files type"
  | ("label", text) => return { s with label := text }
  | ("group-separator", text) => return { s with separator := some text }
  | ("no-group-separator", _) => return { s with separator := none }
  | ("include", text) => return { s with names := s.names ++ [(true, Shell.plainPattern text)] }
  | ("exclude", text) => return { s with names := s.names ++ [(false, Shell.plainPattern text)] }
  | ("exclude-dir", text) => return { s with closedNames := Shell.plainPattern text :: s.closedNames }
  | ("color", word) => color word
  | ("colour", word) => color word
  | _ => return s

/-- What options ask for, or what is wrong with them. -/
def ofArguments (a : Arguments) : Except String LineSearch := do
  let s ← a.options.foldlM addOption {}
  let around ← match a.value? "C", digitContext a.options with
    | some text, _ => pure (some (← readContext text))
    | none, n => pure n
  let report : SearchReport :=
    if a.has "q" then .nothing
    else match (a.last? ["l", "L"]).map Prod.fst with
      | some "l" => .name
      | some _ => .otherName
      | none => if a.has "c" then .count else if a.has "o" then .parts else .lines
  return { s with
    report
    before := if a.has "B" then s.before else around.getD 0
    after := if a.has "A" then s.after else around.getD 0
    hasContext := s.hasContext || around.isSome }

end LineSearch

/-- The patterns that options give, as texts, or the complaint; none if no option gives any. -/
def givenPatterns : List (String × String) → Task (Except String (Option (List (List Char))))
  | [] => return .ok none
  | (letter, value) :: rest => do
    let here : Except String (Option (List (List Char))) ← match letter with
      | "e" => pure (.ok (some (linesOfPattern value)))
      | "f" =>
        match ← readInput value with
        | .ok text => pure (.ok (some (Text.lines text.toList)))
        | .error e => pure (.error (value ++ ": " ++ e.wording))
      | _ => pure (.ok none)
    match here with
    | .error complaint => return .error complaint
    | .ok here =>
      return (← givenPatterns rest).map fun others => match here, others with
        | none, others => others
        | some ps, others => some (ps ++ others.getD [])
where
  /-- The lines of a text, of which there is always one. -/
  linesOfPattern (text : String) : List (List Char) :=
    Text.lines (text.toList ++ ['\n'])

/-- The patterns ready to be searched for: those without references as one, the others one by one. -/
def joinPatterns (ignoresCase : Bool) (rs : List Regex) : List Pattern :=
  let (hard, plain) := rs.partition Regex.hasReference
  let joined := match plain with
    | [] => []
    | r :: rest => [Pattern.ofRegex ignoresCase (rest.foldl Regex.either r)]
  joined ++ hard.map (Pattern.ofRegex ignoresCase)

/-- The line that tells how `grep` is called. -/
def grepUsage : Task Nat := do
  Task.remark ("Usage: " ++ (← read).speaker ++ " [OPTION]... PATTERNS [FILE]...")
  hint 2

/-- Warn of a repetition at the start of a pattern where it means nothing. -/
def warnOfRepetition (kind : PatternKind) (text : List Char) : Task Unit := do
  if kind = .extended then
    match Regex.loneRepetition? RegexSyntax.extendedLines text with
    | some shown => Task.complain ("warning: " ++ shown ++ " at start of expression")
    | none => pure ()

/-- Select lines: `grep [options] pattern [file…]`. -/
def grepAs (default : PatternKind) (args : List String) : Task Nat :=
  withOptionsOr grepOptions grepUsage args fun a => do
    let fail (complaint : String) : Task Nat := do
      Task.complain complaint
      if complaint.toList.contains '\n' then grepUsage else return 2
    if a.has "V" then
      Task.printLine ((← read).speaker ++ " (GNU grep) 3.8")
      return 0
    match LineSearch.ofArguments a, PatternKind.ofArguments default a, ← givenPatterns a.options with
    | .error complaint, _, _ => fail complaint
    | _, .error complaint, _ => fail complaint
    | _, _, .error complaint => fail complaint
    | .ok s, .ok kind, .ok given => do
      let (texts, operands) ← match given, a.operands with
        | some texts, operands => pure (texts, operands)
        | none, [] => return (← grepUsage)
        | none, text :: operands => pure (Text.lines (text.toList ++ ['\n']), operands)
      let ignoresCase := match (a.last? ["i", "y", "no-ignore-case"]).map Prod.fst with
        | some "no-ignore-case" => false
        | found => found.isSome
      if s.limit = some 0 then return 1
      let read := texts.map (kind.read ignoresCase)
      let faults := read.filterMap fun r => match r with
        | .error e => some e
        | .ok _ => none
      if !faults.isEmpty then
        faults.forM fun e => Task.complain e.message
        return 2
      texts.forM (warnOfRepetition kind)
      let patterns := joinPatterns ignoresCase (read.filterMap Except.toOption)
      let s := { s with pattern := { s.pattern with patterns } }
      let isRecursive := s.directories = .recurse
      let isLoneDirectory ← match operands with
        | [only] => if only = "-" then pure false else pure ((← Task.node? only).any Node.isDirectory)
        | _ => pure false
      let titled := match (a.last? ["H", "h"]).map Prod.fst with
        | some "H" => true
        | some _ => false
        | none => operands.length > 1 || (isRecursive && (operands.isEmpty || isLoneDirectory))
      let s := { s with titled }
      let found ← if operands.isEmpty && isRecursive then s.searchTree 1000 "." "" {}
        else s.searchAll (orStdin operands) {}
      return if found.failed && !s.isOver found then 2 else if found.any then 0 else 1

/-- Select lines by basic expressions, unless options tell otherwise. -/
def grep : List String → Task Nat :=
  grepAs .basic

/-- Select lines by extended expressions. -/
def egrep (args : List String) : Task Nat :=
  Task.within (fun c => { c with speaker := "grep" }) (grepAs .extended args)

/-- Select lines by fixed texts. -/
def fgrep (args : List String) : Task Nat :=
  Task.within (fun c => { c with speaker := "grep" }) (grepAs .fixed args)

end CommandSpec.Utility
