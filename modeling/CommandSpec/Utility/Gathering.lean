import CommandSpec.Text.Integer
import CommandSpec.Utility.Children
import CommandSpec.Utility.Outcome
import CommandSpec.Utility.Records

/-!
# `xargs`

`xargs` takes words from its input and runs a command on as many of them at once as are allowed, or
puts one line after another in place of a text in the command.
-/

namespace CommandSpec.Utility

/-- How words are gathered for a command. -/
structure Gathering where
  command : List String
  /-- The text in the command that is replaced by a line. -/
  replaced : Option String := none
  /-- How many words are taken at most. -/
  words : Option Nat := none
  /-- How many lines are taken at most. -/
  lines : Option Nat := none
  /-- What separates words, if quotes mean nothing. -/
  separator : Option Char := none
  /-- A word that ends the input. -/
  last : Option String := none
  /-- How many characters a command may have, with one more for each of its words. -/
  size : Nat := 131072
  /-- Whether the command is run even if there are no words. -/
  runsEmpty : Bool := true
  /-- Whether commands are shown. -/
  shown : Bool := false
  /-- Whether the command can read standard input. -/
  keepsInput : Bool := false
  deriving Inhabited

namespace Gathering

/-! ## Words -/

/-- The words of a line, which ends with a newline or with the input. -/
structure Words where
  words : List String := []
  /-- What stands in a word that goes on in the next line. -/
  opened : Option (List Char) := none
  /-- The quote that is not closed. -/
  quote : Option Char := none
  /-- Whether a blank ends the line, so that it counts as one with the next. -/
  continued : Bool := false
  deriving Inhabited

/-- Read the words of a line; `word` is what was read of one, the last character first. With `whole` a
line is one word. -/
def readWords (whole : Bool) : (word : Option (List Char)) → (quote : Option Char) → List Char → Words
  | word, quote, [] =>
    match quote with
    | some q => { quote := some q }
    | none => { words := (word.map fun cs => String.ofList cs.reverse).toList }
  | word, some q, c :: cs =>
    if c = q then readWords whole (some (word.getD [])) none cs
    else if c = '\n' then { quote := some q }
    else readWords whole (some (c :: word.getD [])) (some q) cs
  | word, none, c :: cs =>
    let isBlank := c = ' ' || c = '\t'
    match c, cs with
    | '\n', _ => { words := (word.map fun cs => String.ofList cs.reverse).toList }
    | '\\', ['\n'] => { opened := some ('\n' :: word.getD []) }
    | '\\', d :: cs => readWords whole (some (d :: word.getD [])) none cs
    | '\\', [] => readWords whole word none []
    | c, cs =>
      if c = '\x27' || c = '"' then readWords whole (some (word.getD [])) (some c) cs
      else if isBlank && !(whole && word.isSome) then
        let rest := readWords whole none none cs
        let continued := rest.continued || (!whole && (cs = ['\n'] || cs = []))
        match word with
        | some w => { rest with words := .ofList w.reverse :: rest.words, continued }
        | none => { rest with continued }
      else readWords whole (some (c :: word.getD [])) none cs

/-! ## Runs -/

/-- What was gathered for the next run. -/
structure Gathered where
  /-- The words, the latest first. -/
  words : List String := []
  lines : Nat := 0
  /-- Whether the command was run. -/
  ran : Bool := false
  status : Nat := 0
  deriving Inhabited

/-- How many characters words take. -/
def sizeOf (words : List String) : Nat :=
  sumOf (words.map fun w => w.length + 1)

/-- A text with another one in place of every occurrence of a part. -/
def replace (part text : String) (s : String) : String :=
  if part = "" then s else text.intercalate (s.splitOn part)

/-- Run a command, and go on unless it cannot be run or asks to stop: the status so far. -/
def runCommand (g : Gathering) (status : Nat) (command : List String) : Task Nat := do
  let name := command.headD ""
  if g.shown then Task.remark (" ".intercalate (command.map forShell))
  match ← locate name with
  | .missing =>
    Task.complain (name ++ ": No such file or directory")
    Task.exit 127
  | .denied =>
    Task.complain (name ++ ": Permission denied")
    Task.exit 126
  | .program path =>
    let changed ← if g.keepsInput then pure [] else
      match ← Task.call (Call.openPath "/dev/null" .read) with
      | .ok fd => pure [(0, fd)]
      | .error _ => pure []
    let pid ← startProgram path name command.tail changed
    match ← Task.waitFor pid Task.patience with
    | .exited 0 => return status
    | .exited 255 =>
      Task.complain (name ++ ": exited with status 255; aborting")
      Task.exit 124
    | .exited _ => return 123
    | .killed signal =>
      Task.complain (name ++ ": terminated by signal " ++ toString signal)
      Task.exit 125

/-- Run the command on what was gathered. -/
def run (g : Gathering) (s : Gathered) : Task Gathered := do
  let status ← g.runCommand s.status (g.command ++ s.words.reverse)
  return { ran := true, status }

/-- Run the command on what was gathered, if anything was, and end with a complaint. -/
def abandon {α : Type} (g : Gathering) (s : Gathered) (complaint : String) : Task α := do
  Task.complain complaint
  if !s.words.isEmpty then
    let _ ← g.run s
  Task.exit 1

/-- Take one more word. -/
def takeWord (g : Gathering) (s : Gathered) (word : String) : Task Gathered := do
  match g.replaced with
  | some part =>
    let command := g.command.take 1 ++ (g.command.drop 1).map (replace part word)
    if g.size < sizeOf command then return (← g.abandon s "argument line too long")
    return { s with ran := true, status := ← g.runCommand s.status command }
  | none =>
    let fits (s : Gathered) : Bool := sizeOf (g.command ++ word :: s.words) ≤ g.size
    if !fits {} then return (← g.abandon s "argument line too long")
    let s ← if fits s then pure s else g.run s
    let s := { s with words := word :: s.words }
    if g.words.any (· ≤ s.words.length) then g.run s else return s

/-- Take words until one of them ends the input: whether it goes on. -/
def takeWords (g : Gathering) : List String → Gathered → Task (Gathered × Bool)
  | [], s => return (s, true)
  | word :: rest, s => do
    if g.last = some word then return (s, false)
    g.takeWords rest (← g.takeWord s word)

/-- Take what a reader yields; `opened` was read of a word. At most `fuel` records. -/
def takeAll (g : Gathering) : (fuel : Nat) → RecordReader → (opened : Option (List Char)) → Gathered →
    Task Gathered
  | 0, _, _, s => return s
  | fuel + 1, reader, opened, s => do
    let (record?, reader, _) ← reader.next
    match record? with
    | none => return s
    | some record =>
      if g.separator.isSome then
        let word := if record.getLast? = some reader.ending then record.dropLast else record
        let (s, _) ← g.takeWords [.ofList word] s
        let s ← if g.lines.any (· ≤ s.lines + 1) then g.run s else pure { s with lines := s.lines + 1 }
        g.takeAll fuel reader none s
      else
        let found := readWords g.replaced.isSome opened none record
        let (s, goesOn) ← g.takeWords found.words s
        if let some q := found.quote then
          return (← g.abandon s ("unmatched " ++ (if q = '"' then "double" else "single")
            ++ " quote; by default quotes are special to xargs unless you use the -0 option"))
        if !goesOn then return s
        let isLine := !found.words.isEmpty && !found.continued && found.opened.isNone
        let lines := if isLine then s.lines + 1 else s.lines
        let s ← if isLine && g.lines.any (· ≤ lines) then g.run s else pure { s with lines }
        g.takeAll fuel reader found.opened s

/-! ## Options -/

/-- The options of `xargs`. -/
def optionTable : OptionTable :=
  { flags := "0oprtx", valued := "aEILdnPs", attached := "eil", ordered := true
    names := [("null", "0"), ("arg-file", "a"), ("delimiter", "d"), ("eof", "e"), ("replace", "i"),
      ("max-lines", "l"), ("max-args", "n"), ("open-tty", "o"), ("interactive", "p"),
      ("no-run-if-empty", "r"), ("max-chars", "s"), ("verbose", "t"), ("exit", "x"), ("max-procs", "P")]
    edition := "(GNU findutils) 4.9.0", words := ["show-limits"], valuedWords := ["process-slot-var"] }

/-- A number that an option gives. -/
def numberOf (option text : String) (least : Nat) : Except String Nat :=
  match Text.readInteger? text.toList with
  | some n =>
    if n < least then
      .error ("value " ++ toString n ++ " for -" ++ option ++ " option should be >= " ++ toString least)
    else .ok n.toNat
  | none => .error ("invalid number \"" ++ text ++ "\" for -" ++ option ++ " option")

/-- The delimiter that a text stands for. -/
def delimiterOf (text : String) : Except String Char :=
  let coded (base : Nat) (digits : List Char) : Except String Char :=
    if !digits.isEmpty && digits.all (Text.isDigitIn base) && Text.numberIn base digits < 256 then
      .ok (Char.ofNat (Text.numberIn base digits))
    else
      .error ("Invalid escape sequence " ++ text ++ " in input delimiter specification.")
  match text.toList with
  | [c] => .ok c
  | ['\\', c] =>
    match c with
    | 'a' => .ok '\x07'
    | 'b' => .ok '\x08'
    | 'f' => .ok '\x0c'
    | 'n' => .ok '\n'
    | 'r' => .ok '\r'
    | 't' => .ok '\t'
    | 'v' => .ok '\x0b'
    | '\\' => .ok '\\'
    | c => coded 8 [c]
  | '\\' :: 'x' :: digits => coded 16 digits
  | '\\' :: digits => coded 8 digits
  | _ => .error ("Invalid input delimiter specification " ++ text ++ ": the delimiter must be either a single "
      ++ "character or an escape sequence starting with \\.")

/-- A complaint that an option makes another one count for nothing. -/
def excluded (here gone : String) : String :=
  "warning: options " ++ gone ++ " and " ++ here ++ " are mutually exclusive, ignoring previous " ++ gone
    ++ " value"

/-- The gathering with an option taken into account, and what is to be warned of. -/
def addOption (g : Gathering) (option : String × String) : Except (String × Bool) (Gathering × List String) := do
  let number (least : Nat) : Except (String × Bool) Nat :=
    (numberOf option.1 option.2 least).mapError fun e => (e, true)
  let inLines (here : String) (n : Nat) : Gathering × List String :=
    let warnings := (if g.words.isSome then [excluded here "--max-args"] else [])
      ++ if g.replaced.isSome then [excluded here "--replace"] else []
    ({ g with lines := some n, words := none, replaced := none }, warnings)
  let replacing (text : String) : Gathering × List String :=
    let here := "--replace/-I/-i"
    let warnings := (if g.words.isSome then [excluded here "--max-args"] else [])
      ++ if g.lines.isSome then [excluded here "--max-lines"] else []
    ({ g with replaced := some text, words := none, lines := none }, warnings)
  match option.1 with
  | "0" => return ({ g with separator := some (Char.ofNat 0) }, [])
  | "d" => return ({ g with separator := some (← (delimiterOf option.2).mapError fun e => (e, false)) }, [])
  | "E" => return ({ g with last := if option.2 = "" then none else some option.2 }, [])
  | "e" => return ({ g with last := if option.2 = "" then none else some option.2 }, [])
  | "I" => return replacing option.2
  | "i" => return replacing (if option.2 = "" then "\x7b\x7d" else option.2)
  | "L" => return inLines "-L" (← number 1)
  | "l" =>
    let n ← if option.2 = "" then pure 1 else number 1
    return inLines "--max-lines/-l" n
  | "n" =>
    let n ← number 1
    if g.replaced.isSome && n = 1 then return (g, [])
    let here := "--max-args/-n"
    let warnings := (if g.lines.isSome then [excluded here "--max-lines"] else [])
      ++ if g.replaced.isSome then [excluded here "--replace"] else []
    return ({ g with words := some n, lines := none, replaced := none }, warnings)
  | "s" => return ({ g with size := min (← number 1) 131072 }, [])
  | "P" =>
    let _ ← number 0
    return (g, [])
  | "r" => return ({ g with runsEmpty := false }, [])
  | "t" => return ({ g with shown := true }, [])
  | _ => return (g, [])

/-- The gathering that options ask for. -/
def ofOptions (command : List String) : List (String × String) → Except (String × Bool) (Gathering × List String)
  | options => options.foldlM (fun (g, warnings) option => do
      let (g, more) ← g.addOption option
      return (g, warnings ++ more)) ({ command }, [])

end Gathering

/-- Run a command on words of the input: `xargs [options] [command [argument…]]`. -/
def xargs (args : List String) : Task Nat :=
  withOptions Gathering.optionTable args fun a => do
    let command := if a.operands.isEmpty then ["echo"] else a.operands
    match Gathering.ofOptions command a.options with
    | .error (complaint, isMisuse) => if isMisuse then misuse complaint 1 else failWith 1 complaint
    | .ok (g, warnings) =>
      warnings.forM fun w => Task.complain w
      let opened ← match a.value? "a" with
        | none => pure (.ok 0)
        | some "-" => pure (.ok 0)
        | some path => Task.openPath path .read
      match opened with
      | .error e =>
        failWith 1 ("Cannot open input file " ++ inQuotes ((a.value? "a").getD "") ++ ": " ++ e.wording)
      | .ok fd =>
        let g := { g with keepsInput := fd ≠ 0 }
        let reader : RecordReader := { fd, ending := g.separator.getD '\n' }
        let s ← g.takeAll Task.patience reader none {}
        let isLeft := !s.words.isEmpty || (!s.ran && g.runsEmpty && g.replaced.isNone)
        let s ← if isLeft then g.run s else pure s
        return s.status

end CommandSpec.Utility
