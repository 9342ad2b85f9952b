import CommandSpec.Utility.Children
import CommandSpec.Utility.Editing.Substitution
import CommandSpec.Utility.Names
import CommandSpec.Utility.Records

/-!
# Editing lines

An editor reads one line after another and carries out the commands of a script on each. It has a place
for another text besides the line, and texts that wait to be written after the line. The inputs count
as one, unless files are edited in place.
-/

namespace CommandSpec.Utility.Editing

/-- A text that was read as a line. -/
structure EditedLine where
  text : List Char := []
  /-- Whether the end of the line was read too. -/
  closed : Bool := true
  deriving Inhabited

/-- Where lines are written to. -/
structure Sink where
  fd : Nat
  /-- Whether the last line that was written lacks its end. -/
  isOpen : Bool := false
  deriving Inhabited

/-- What is written after a line. -/
inductive Waiting where
  | text (cs : List Char)
  | file (path : String)
  deriving Inhabited

/-- Whether a line is in a range. -/
inductive RangeState where
  | outside
  /-- In the range, up to a line if its number is known. -/
  | inside (stop : Option Nat)
  /-- After the range. -/
  | past
  deriving DecidableEq, Repr, Inhabited

/-- How a file is edited: where its new content is written, and where that goes. -/
structure InPlace where
  path : String
  draft : String
  mode : Nat
  deriving Inhabited

/-- An input that is being read. -/
structure OpenInput where
  name : String
  reader : RecordReader
  inPlace : Option InPlace := none
  deriving Inhabited

/-- What an editor is asked to do. -/
structure Request where
  script : Script
  /-- Whether lines end in a NUL. -/
  nulLines : Bool := false
  /-- Whether every input has line numbers of its own. -/
  separate : Bool := false
  /-- Whether files are edited in place, and what is added to the names of their old versions. -/
  inPlace : Option String := none
  /-- Where shown lines are folded. -/
  width : Nat := 70
  /-- Whether links are followed to the files that are edited. -/
  follows : Bool := false
  /-- Whether only what the standard asks for is done. -/
  strict : Bool := false
  /-- How many arguments are parts of the script. -/
  expressions : Nat := 1
  deriving Inhabited

/-- What an editor holds. -/
structure Editor where
  /-- The inputs that are still to be opened. -/
  operands : List String := []
  input : Option OpenInput := none
  /-- The number of the line. -/
  number : Nat := 0
  line : EditedLine := {}
  held : EditedLine := {}
  /-- Whether matches in the line were replaced since it was read. -/
  replaced : Bool := false
  waiting : List Waiting := []
  ranges : Array RangeState := #[]
  /-- The pattern that was used last. -/
  lastPattern : Option LinesPattern := none
  /-- The output. -/
  out : Sink := { fd := 1 }
  /-- The files that are written to. -/
  sinks : List (String × Sink) := []
  /-- The files that lines are taken from. -/
  sources : List (String × Option RecordReader) := []
  /-- What is still to be written to standard output, the latest first. -/
  unwritten : List String := []
  /-- How often commands were gone back to since a line was read. -/
  turns : Nat := 0
  status : Nat := 0
  deriving Inhabited

/-- A part of what an editor does. -/
abbrev Edit := StateT Editor Task

namespace Edit

/-! ## Writing -/

/-- Write what is still to be written. -/
def flush : Edit Unit := do
  let texts := (← get).unwritten
  modify fun e => { e with unwritten := [] }
  Task.print (String.join texts.reverse)
  if let some fault := (← (Task.call Call.self : Task Process)).refusal then
    Task.call (Call.modifySelf fun p => { p with refusal := none })
    Task.complain ("couldn't flush stdout: " ++ fault.wording)
    Task.exit 4

/-- Write to a descriptor. -/
def emit (fd : Nat) (text : String) : Edit Unit := do
  if fd = 1 then modify fun e => { e with unwritten := text :: e.unwritten }
  else
    let _ ← (Task.write fd text : Task (Except OsError Unit))

/-- End at once because of something that makes it useless to go on. -/
def fail {α : Type} (complaint : String) : Edit α := do
  flush
  Task.complain complaint
  Task.exit 4

/-- The character that ends lines. -/
def lineEnd (r : Request) : List Char :=
  [recordEnd r.nulLines]

/-- Write something after the lines in a sink, of which the last one is closed first. -/
def writeText (r : Request) (s : Sink) (text : List Char) : Edit Sink := do
  emit s.fd (.ofList (if s.isOpen then lineEnd r ++ text else text))
  return { s with isOpen := false }

/-- Write a line to a sink. -/
def writeLine (r : Request) (s : Sink) (line : EditedLine) : Edit Sink := do
  let s ← writeText r s (if line.closed then line.text ++ lineEnd r else line.text)
  return { s with isOpen := !line.closed }

/-- Write something to the output. -/
def putText (r : Request) (text : List Char) : Edit Unit := do
  let out ← writeText r (← get).out text
  modify fun e => { e with out }

/-- Write a line to the output. -/
def putLine (r : Request) (line : EditedLine) : Edit Unit := do
  let out ← writeLine r (← get).out line
  modify fun e => { e with out }

/-- Write a line to a file. -/
def putLineTo (r : Request) (path : String) (line : EditedLine) : Edit Unit := do
  match (← get).sinks.lookup path with
  | none => pure ()
  | some sink =>
    let sink ← writeLine r sink line
    modify fun e => { e with sinks := (path, sink) :: e.sinks.filter (·.1 ≠ path) }

/-- Write what waits to be written after the line. -/
def putWaiting (r : Request) : Edit Unit := do
  let waiting := (← get).waiting
  modify fun e => { e with waiting := [] }
  for w in waiting do
    match w with
    | .text cs => putText r cs
    | .file path =>
      let content ← if path = "/dev/stdin" then (Task.readAll 0 : Task _) else Task.slurp path
      match content with
      | .ok text => if text ≠ "" then putText r text.toList
      | .error _ => pure ()

/-! ## Inputs -/

/-- Replace a file by its new version. -/
def finishInPlace (r : Request) (p : InPlace) : Edit Unit := do
  let suffix := r.inPlace.getD ""
  if suffix ≠ "" then
    let base := baseName p.path
    let name : String := if suffix.toList.contains '*' then base.intercalate (suffix.splitOn "*") else base ++ suffix
    let backup := if name.toList.contains '/' then name else beside p.path name
    match ← (Task.change fun files cwd => files.rename cwd p.path backup : Task _) with
    | .ok () => pure ()
    | .error e =>
      let _ ← (Task.change fun files cwd => files.removeFile cwd p.draft : Task _)
      fail ("cannot rename " ++ p.path ++ ": " ++ e.wording)
  let _ ← (Task.change fun files cwd => files.rename cwd p.draft p.path : Task _)
where
  /-- A name in the directory of a path. -/
  beside (path name : String) : String :=
    if path.toList.contains '/' then Path.inside (dirName path) name else name

/-- Close the input that is being read. -/
def closeInput (r : Request) : Edit Unit := do
  match (← get).input with
  | none => pure ()
  | some i =>
    if i.name = "-" then i.reader.giveBack else Task.close i.reader.fd
    modify fun e => { e with input := none }
    if let some p := i.inPlace then
      Task.close (← get).out.fd
      modify fun e => { e with out := { fd := 1 } }
      finishInPlace r p

/-- Start to write the new version of a file. -/
def startInPlace (r : Request) (path : String) : Edit InPlace := do
  let (files, cwd) ← (Task.place : Task _)
  let path := if r.follows then
      match files.resolve cwd path, (files.resolveLink cwd path).toOption.map files.node with
      | .ok _, some { content := .symbolic target, .. } =>
        if target.toList.head? = some '/' then target else Path.inside (dirName path) target
      | _, _ => path
    else path
  let mode := ((files.resolve cwd path).toOption.map fun i => (files.node i).mode).getD 0o644
  let draft := Path.inside (dirName path) "sedAbCdEf"
  match ← (Task.openPath draft .write : Task _) with
  | .error e => fail ("couldn't open temporary file " ++ draft ++ ": " ++ e.wording)
  | .ok fd =>
    let _ ← (Task.change fun files cwd => do
      let i ← files.resolve cwd draft
      return files.modify i fun n => { n with mode } : Task _)
    modify fun e => { e with out := { fd } }
    return { path, draft, mode }

/-- Open an input; one that cannot be read is complained about. -/
def openInput (r : Request) (name : String) : Edit Unit := do
  if r.separate && (← get).number > 0 then
    let out := (← get).out
    if out.isOpen then putText r []
    modify fun e => { e with number := 0, held := {}, ranges := e.ranges.map fun _ => .outside }
  let ending := recordEnd r.nulLines
  if name = "-" && r.inPlace.isNone then
    modify fun e => { e with input := some { name, reader := { fd := 0, ending } } }
  else
    if r.inPlace.isSome then
      if let some node ← (Task.node? name : Task _) then
        if !node.isFile then fail ("couldn't edit " ++ name ++ ": not a regular file")
    match ← (Task.openPath name .read : Task _) with
    | .error e =>
      Task.complain ("can't read " ++ name ++ ": " ++ e.wording)
      modify fun e => { e with status := 2 }
    | .ok fd =>
      let inPlace ← if r.inPlace.isSome then some <$> startInPlace r name else pure none
      modify fun e => { e with input := some { name, reader := { fd, ending }, inPlace } }

/-- Whether the input that is being read has another line. -/
def hasMore : Edit Bool := do
  match (← get).input with
  | none => return false
  | some i =>
    if i.reader.ready.isEmpty && !i.reader.ended then flush
    let (reader, fault) ← (i.reader.fill Task.patience : Task _)
    modify fun e => { e with input := some { i with reader } }
    if let some fault := fault then fail ("read error on " ++ i.name ++ ": " ++ fault.wording)
    return !reader.isOver

/-- Go on to the first input that has another line, if there is one. -/
def findLine (r : Request) : (operands : List String) → Edit Bool
  | [] => do
    if ← hasMore then return true
    closeInput r
    return false
  | operand :: rest => do
    if ← hasMore then return true
    closeInput r
    modify fun e => { e with operands := rest }
    openInput r operand
    findLine r rest

/-- Whether the line is the last one. -/
def isLast (r : Request) : Edit Bool := do
  if r.separate then return !(← hasMore)
  return !(← findLine r (← get).operands)

/-- Read the next line, perhaps after the one that is there: whether there is one. -/
def readLine (r : Request) (joins : Bool) : Edit Bool := do
  putWaiting r
  modify fun e => { e with replaced := false, turns := 0 }
  Task.pause 1
  if !(← findLine r (← get).operands) then return false
  let e ← get
  match e.input.bind fun i => (i.reader.take?).map fun taken => (i, taken) with
  | none => return false
  | some (i, record, reader) =>
    let closed := record.getLast? = some reader.ending
    let text := if closed then record.dropLast else record
    let line : EditedLine := { text := if joins then e.line.text ++ lineEnd r ++ text else text, closed }
    set { e with input := some { i with reader }, number := e.number + 1, line }
    return true

/-! ## Selecting lines -/

/-- A pattern, or else the one that was used last. -/
def patternOr (r : Request) (p : Option LinesPattern) : Edit LinesPattern := do
  match p.or (← get).lastPattern with
  | some p =>
    modify fun e => { e with lastPattern := some p }
    return p
  | none =>
    flush
    Task.complain ("-e expression #" ++ toString r.expressions ++ ", char 0: no previous regular expression")
    Task.exit 1

/-- Whether an address is that of the line. -/
def isAt (r : Request) (a : Address) : Edit Bool := do
  let e ← get
  match a with
  | .number n => return e.number = n
  | .every first step =>
    return first ≤ e.number && (e.number - first) % step = 0
  | .last => isLast r
  | .matching p =>
    let p ← patternOr r p
    return p.pattern.occursIn { multiline := p.multiline && !r.nulLines } e.line.text

/-- Where a range that starts at a line ends, if its last line is known: the line itself, or a later
one. -/
def knownStop (number : Nat) : RangeEnd → Option Nat
  | .address (.number n) => some (max n number)
  | .after n => some (number + n)
  | .multiple n => some (if n = 0 then number else (number / n + 1) * n)
  | .address _ => none

/-- Whether the line is in a range that command `k` is for. -/
def isInRange (r : Request) (k : Nat) (first : Address) (stop : RangeEnd) : Edit Bool := do
  let setState (s : RangeState) : Edit Unit := modify fun e => { e with ranges := e.ranges.setIfInBounds k s }
  let number := (← get).number
  let noted : RangeState := ((← get).ranges[k]?).getD .outside
  let state : RangeState := match noted, first with
    | .outside, .number 0 => .inside none
    | state, _ => state
  match state with
  | .inside (some n) =>
    if n ≤ number then setState .past
    return number ≤ n
  | .inside none =>
    match stop with
    | .address a => if ← isAt r a then setState .past
    | _ => pure ()
    return true
  | state =>
    let isGone : Bool := match first with
      | .number _ => state = .past
      | _ => false
    if isGone then return false
    if !(← isAt r first) then return false
    let known ← match stop with
      | .address .last => pure (if ← isLast r then some number else none)
      | stop => pure (knownStop number stop)
    setState (if known = some number then .past else .inside known)
    return true

/-- Whether a command is for the line. -/
def isSelected (r : Request) (k : Nat) (s : Selector) : Edit Bool := do
  let inside ← match s.first, s.stop with
    | none, _ => pure true
    | some a, none => isAt r a
    | some a, some stop => isInRange r k a stop
  return inside != s.negated

/-! ## Commands -/

/-- How the commands for a line end. -/
inductive CycleEnd where
  | over
  | deleted
  /-- Start again with what is left of the line. -/
  | again
  | quit (shows : Bool) (status : Nat)
  deriving Inhabited

/-- A character as it is shown without doubt. -/
def listedChar (c : Char) : List Char :=
  match c with
  | '\\' => ['\\', '\\']
  | '\x07' => ['\\', 'a']
  | '\x08' => ['\\', 'b']
  | '\x0c' => ['\\', 'f']
  | '\n' => ['\\', 'n']
  | '\r' => ['\\', 'r']
  | '\t' => ['\\', 't']
  | '\x0b' => ['\\', 'v']
  | c => if ' ' ≤ c && c ≤ '~' then [c] else '\\' :: Text.paddedDigits 8 3 c.toNat

/-- A text as it is shown without doubt, folded at a width if that is not zero. -/
def listed (width : Nat) (text : List Char) : List Char :=
  let (pieces, _) := text.foldl (fun (soFar, column) c =>
    let piece := listedChar c
    if width > 0 && column + piece.length > width - 1 then (piece :: ['\\', '\n'] :: soFar, piece.length)
    else (piece :: soFar, column + piece.length)) (([] : List (List Char)), 0)
  pieces.reverse.flatten

/-- Run a command: what it writes. -/
def commandOutput (command : List Char) : Edit (List Char) := do
  flush
  let (text, _) ← (outputOf (.ofList command) : Task _)
  return text.toList

/-- Replace matches in the line. -/
def substitute (r : Request) (s : Substitution) : Edit Unit := do
  let p ← patternOr r s.pattern
  let p := { p with multiline := p.multiline && !r.nulLines }
  match s.replaced? p (← get).line.text with
  | none => pure ()
  | some text =>
    modify fun e => { e with replaced := true, line := { e.line with text } }
    if s.printsBefore then putLine r (← get).line
    if s.evaluates then
      let text ← commandOutput text
      let text := if text.getLast? = (lineEnd r).head? then text.dropLast else text
      modify fun e => { e with line := { e.line with text } }
    if s.prints then putLine r (← get).line
    if let some path := s.file then putLineTo r path (← get).line

/-- The next line of a file that lines are taken from. -/
def takeLine (r : Request) (path : String) : Edit (Option (List Char)) := do
  let reader? ← match (← get).sources.lookup path with
    | some reader? => pure reader?
    | none =>
      let ending := recordEnd r.nulLines
      if path = "/dev/stdin" then pure (some { fd := 0, ending })
      else
        match ← (Task.openPath path .read : Task _) with
        | .ok fd => pure (some ({ fd, ending } : RecordReader))
        | .error _ => pure none
  let (record?, reader?) ← match reader? with
    | none => pure (none, none)
    | some reader =>
      let (record?, reader, _) ← (reader.next : Task _)
      pure (record?, some reader)
  modify fun e => { e with sources := (path, reader?) :: e.sources.filter (·.1 ≠ path) }
  return record?

/-- The part of a line before the first end of a line in it. -/
def firstPart (r : Request) (line : EditedLine) : EditedLine :=
  let text := line.text.takeWhile (· ≠ recordEnd r.nulLines)
  if text.length = line.text.length then line else { text }

/-- Have something written after the line. -/
def wait (w : Waiting) : Edit Unit :=
  modify fun e => { e with waiting := e.waiting ++ [w] }

/-- Carry out an action that neither ends the commands nor changes their order. -/
def perform (r : Request) (a : Action) : Edit Unit := do
  let e ← get
  match a with
  | .text .before text => putText r text
  | .text .after text => wait (.text text)
  | .print => putLine r e.line
  | .printFirst => putLine r (firstPart r e.line)
  | .list width =>
    putText r (listed (width.getD r.width) e.line.text ++ '$' :: lineEnd r)
  | .number => putText r ((toString e.number).toList ++ lineEnd r)
  | .inputName => putText r (((e.input.map OpenInput.name).getD "-").toList ++ lineEnd r)
  | .hold false => set { e with held := e.line }
  | .hold true => set { e with held := { e.line with text := e.held.text ++ lineEnd r ++ e.line.text } }
  | .fetch false => set { e with line := e.held }
  | .fetch true => set { e with line := { e.held with text := e.line.text ++ lineEnd r ++ e.held.text } }
  | .exchange => set { e with line := e.held, held := e.line }
  | .clear => set { e with line := { e.line with text := [] } }
  | .substitute s => substitute r s
  | .translate pairs =>
    let last := pairs.reverse
    set { e with line := { e.line with text := e.line.text.map fun c => (last.lookup c).getD c } }
  | .appendFile path => wait (.file path)
  | .appendLine path =>
    match ← takeLine r path with
    | some record => wait (.text record)
    | none => pure ()
  | .write path first =>
    putLineTo r path (if first then firstPart r e.line else e.line)
  | .execute [] =>
    let text ← commandOutput e.line.text
    let text := if text.getLast? = (lineEnd r).head? then text.dropLast else text
    modify fun e => { e with line := { e.line with text } }
  | .execute command =>
    let text ← commandOutput command
    if !text.isEmpty then putText r text
  | _ => pure ()

/-- Spend the time that it takes to go back to other commands, more of it if that happens often. -/
def turn : Edit Unit := do
  let turns := (← get).turns + 1
  modify fun e => { e with turns }
  Task.pause (min turns 50)

/-- Carry out the commands from `k` on; at most `fuel`. -/
def runFrom (r : Request) : (fuel k : Nat) → Edit CycleEnd
  | 0, _ => return .over
  | fuel + 1, k => do
    match r.script.steps[k]? with
    | none => return .over
    | some step =>
      if !(← isSelected r k step.selector) then
        match step.action with
        | .block stop => runFrom r fuel stop
        | _ => runFrom r fuel (k + 1)
      else
        match step.action with
        | .text .instead text =>
          let isInside := match (← get).ranges[k]? with
            | some (.inside _) => step.selector.stop.isSome
            | _ => false
          if !isInside then putText r text
          return .deleted
        | .delete => return .deleted
        | .deleteFirst =>
          let e ← get
          match e.line.text.dropWhile (· ≠ recordEnd r.nulLines) with
          | [] => return .deleted
          | _ :: text =>
            set { e with line := { e.line with text } }
            return .again
        | .next =>
          if ← isLast r then return if r.strict then .quit false 0 else .over
          if !r.script.silent then putLine r (← get).line
          if ← readLine r false then runFrom r fuel (k + 1) else return .over
        | .joinNext =>
          if ← isLast r then return if r.strict then .quit false 0 else .over
          if ← readLine r true then runFrom r fuel (k + 1) else return .over
        | .quit shows status => return .quit shows status
        | .jump rule label =>
          let replaced := (← get).replaced
          let jumps : Bool := match rule with
            | .always => true
            | .replaced => replaced
            | .notReplaced => !replaced
          if rule ≠ .always then modify fun e => { e with replaced := false }
          turn
          if !jumps then runFrom r fuel (k + 1)
          else
            match r.script.labels.lookup label with
            | some k => runFrom r fuel k
            | none => return .over
        | action =>
          perform r action
          runFrom r fuel (k + 1)

/-- Carry out the script on line after line; at most `fuel` times. The status to end with. -/
def cycles (r : Request) : (fuel : Nat) → (reads : Bool) → Edit Nat
  | 0, _ => return 0
  | fuel + 1, reads => do
    let isThere ← if reads then readLine r false else putWaiting r *> turn *> pure true
    if !isThere then return (← get).status
    let write : Edit Unit := do
      let line := (← get).line
      if !r.script.silent then putLine r line
    match ← runFrom r Task.patience 0 with
    | .over =>
      write
      cycles r fuel true
    | .deleted => cycles r fuel true
    | .again => cycles r fuel false
    | .quit shows status =>
      if shows then
        write
        let out := (← get).out
        if out.isOpen then putText r []
        putWaiting r
      let failed := (← get).status
      return if status = 0 then failed else status

/-- Open the files that a script writes to. -/
def openSinks : List String → Edit Unit
  | [] => pure ()
  | path :: rest => do
    if ((← get).sinks.lookup path).isNone then
      let fd ← match path with
        | "/dev/stdout" => pure 1
        | "/dev/stderr" => pure 2
        | path =>
          match ← (Task.openPath path .write : Task _) with
          | .ok fd => pure fd
          | .error e => fail ("couldn't open file " ++ path ++ ": " ++ e.wording)
      modify fun e => { e with sinks := (path, { fd }) :: e.sinks }
    openSinks rest

/-- Edit all inputs. -/
def editInputs (r : Request) : Edit Nat := do
  modify fun e => { e with ranges := r.script.steps.map fun _ => .outside }
  openSinks r.script.files
  let status ← cycles r Task.patience true
  closeInput r
  flush
  return status

end Edit

end CommandSpec.Utility.Editing
