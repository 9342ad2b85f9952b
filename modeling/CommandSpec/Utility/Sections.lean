import CommandSpec.Regex.Search
import CommandSpec.Text.Integer
import CommandSpec.Utility.Inputs
import CommandSpec.Utility.Outcome
import CommandSpec.Utility.Printf

/-!
# `csplit`

An input is cut into sections at lines with certain numbers, or at lines that match expressions. Each section
is written to a file of its own, or is passed over.
-/

namespace CommandSpec.Utility

/-! ## Places to cut at -/

/-- How often a place is looked for. -/
inductive CutRepeat where
  | times (n : Nat)
  | forever
  deriving DecidableEq, Repr, Inhabited

/-- Where a section ends. -/
inductive CutPlace where
  /-- Before the line with a number. -/
  | line (n : Nat)
  /-- At a distance from a line that matches; the section may be passed over. -/
  | matching (p : Regex.Pattern) (distance : Int) (skips : Bool)
  deriving Inhabited

/-- A place with the text that asks for it. -/
structure SectionCut where
  text : String
  place : CutPlace
  again : CutRepeat := .times 0
  deriving Inhabited

namespace SectionCut

/-- Read an expression between delimiters and the distance after it. -/
def readMatching (text : String) (delimiter : Char) (cs : List Char) : Except String CutPlace := do
  let after := (cs.reverse.takeWhile (· ≠ delimiter)).reverse
  if after.length = cs.length then
    throw (text ++ ": closing delimiter " ++ inQuotes delimiter.toString ++ " missing")
  let expression := cs.take (cs.length - after.length - 1)
  let pattern ← (Regex.Pattern.ofText .basic expression).mapError fun fault =>
    inQuotes text ++ ": invalid regular expression: " ++ fault.message
  let distance ← match after with
    | [] => pure 0
    | '+' :: rest@(_ :: _) => ((Text.readDigits? rest).map Int.ofNat).elim (throw (complaint ())) pure
    | rest => (Text.readInteger? rest).elim (throw (complaint ())) pure
  return .matching pattern distance (delimiter = '%')
where
  /-- The complaint about a distance. -/
  complaint (_ : Unit) : String :=
    inQuotes text ++ ": integer expected after delimiter"

/-- Read a place. -/
def readPlace (text : String) : Except String CutPlace :=
  match text.toList with
  | '/' :: cs => readMatching text '/' cs
  | '%' :: cs => readMatching text '%' cs
  | cs =>
    match Text.readDigits? cs with
    | none => .error (inQuotes text ++ ": invalid pattern")
    | some 0 => .error (text ++ ": line number must be greater than zero")
    | some n => .ok (.line n)

/-- Read how often a place is looked for. -/
def readRepeat (text : String) : Except String CutRepeat :=
  let inner := (text.toList.drop 1).dropLast
  if text.length < 2 || text.toList.getLast? ≠ some '\x7d' then
    .error (inQuotes text ++ ": \x27\x7d\x27 is required in repeat count")
  else if inner = ['*'] then .ok .forever
  else
    match Text.readDigits? inner with
    | some n => .ok (.times n)
    | none => .error (inQuotes (.ofList text.toList.dropLast) ++ "\x7d: integer required between \x27\x7b\x27 and \x27\x7d\x27")

/-- Read the places that operands ask for; `last` is the number of the last line that was asked for. Also
there are warnings. -/
def readAll (last : Nat) : List String → Except String (List SectionCut × List String)
  | [] => .ok ([], [])
  | text :: rest => do
    let place ← readPlace text
    let number := match place with
      | .line n => n
      | .matching .. => last
    let isLine := match place with
      | .line _ => true
      | .matching .. => false
    if number < last then
      throw ("line number " ++ inQuotes text ++ " is smaller than preceding line number, " ++ toString last)
    let warnings := if isLine && number = last
      then ["warning: line number " ++ inQuotes text ++ " is the same as preceding line number"] else []
    match rest with
    | [] => return ([{ text, place }], warnings)
    | next :: others =>
      if next.toList.head? = some '\x7b' then
        let again ← readRepeat next
        let (cuts, more) ← readAll number others
        return ({ text, place, again } :: cuts, warnings ++ more)
      else
        let (cuts, more) ← readAll number (next :: others)
        return ({ text, place } :: cuts, warnings ++ more)

end SectionCut

/-! ## Sections -/

/-- How sections are written. -/
structure SectionStyle where
  lead : String := "xx"
  /-- The format of the number in a name, as pieces. -/
  format : List FormatPiece := []
  /-- Whether sections are kept after a fault. -/
  keeps : Bool := false
  /-- Whether the sizes of sections are told. -/
  tells : Bool := true
  omitsEmpty : Bool := false
  /-- Whether the line that a section ends at is left out. -/
  omitsMatched : Bool := false
  deriving Inhabited

/-- How far an input was cut. -/
structure SectionState where
  lines : Array (List Char)
  /-- The place of the first line that is in no section. -/
  first : Nat := 0
  /-- How many lines were looked at. -/
  seen : Nat := 0
  /-- The lines of the section that is being made, the latest first. -/
  current : Option (List (List Char)) := none
  made : List String := []
  number : Nat := 0
  deriving Inhabited

/-- What cannot be gone on with. -/
inductive SectionFault where
  /-- All is done. -/
  | finished
  | complaint (text : String)
  deriving DecidableEq, Repr, Inhabited

/-- Something done to sections. -/
abbrev Sectioning := ExceptT SectionFault (StateT SectionState Task)

namespace Sectioning

/-- Do something that touches no section. -/
def task {α : Type} (x : Task α) : Sectioning α :=
  ExceptT.lift (StateT.lift x)

/-- Begin a section. -/
def begin : Sectioning Unit :=
  modify fun s => { s with current := some [] }

/-- Take the first line that is in no section. -/
def takeLine : Sectioning (Option (List Char)) := do
  let s ← get
  match s.lines[s.first]? with
  | none => return none
  | some line =>
    set { s with first := s.first + 1, seen := max s.seen (s.first + 1) }
    return some line

/-- Put a line into the section that is being made. -/
def save (line : List Char) : Sectioning Unit :=
  modify fun s => { s with current := s.current.map (line :: ·) }

/-- Put all lines that are left into the section; at most `fuel`. -/
def saveRest : (fuel : Nat) → Sectioning Unit
  | 0 => return ()
  | fuel + 1 => do
    match ← takeLine with
    | none => return ()
    | some line =>
      save line
      saveRest fuel

/-- The name of a section. -/
def nameOf (style : SectionStyle) (number : Nat) : Task String := do
  let dialect := programPrintf (← read).charset
  let found := (formatOnce dialect style.format { args := [toString number] }).output.reverse
  return style.lead ++ .ofList (found.flatMap fun e => match e with
    | .text cs => cs
    | .fault _ => [])

/-- End the section that is being made, and write it. -/
def finish (style : SectionStyle) : Sectioning Unit := do
  let s ← get
  match s.current with
  | none => return ()
  | some lines =>
    let text := String.ofList lines.reverse.flatten
    if style.omitsEmpty && text = "" then set { s with current := none }
    else
      let path ← task (nameOf style s.number)
      match ← task (Task.openPath path .write) with
      | .error e => throw (.complaint (forShell path ++ ": " ++ e.wording))
      | .ok fd =>
        let _ ← task (Task.write fd text)
        task (Task.close fd)
        if style.tells then task (Task.printLine (toString text.length))
        set { s with current := none, made := path :: s.made, number := s.number + 1 }

/-- How a complaint tells which time a place is looked for. -/
def timeText (time : Nat) : String :=
  if time = 0 then "" else " on repetition " ++ toString time

/-- End a section before a line with a number. -/
def cutAtLine (style : SectionStyle) (n time : Nat) : Sectioning Unit := do
  let fail : Sectioning Unit :=
    throw (.complaint (inQuotes (toString n) ++ ": line number out of range" ++ timeText time))
  let isOver : Sectioning Bool := do
    let s ← get
    return s.seen ≥ s.lines.size
  begin
  if style.omitsMatched then
    if ← isOver then fail
  let start := (← get).first + 1
  for _ in [start:n * (time + 1)] do
    match ← takeLine with
    | none => fail
    | some line => save line
  finish style
  if style.omitsMatched then let _ ← takeLine
  else if ← isOver then fail

/-- Take lines up to one with a number into the section, or pass over them. -/
def takeUpTo (text : String) (skips : Bool) (line : Int) : Sectioning Unit := do
  let complaint := SectionFault.complaint (inQuotes text ++ ": line number out of range")
  let fail : Sectioning Unit := throw complaint
  let first : Int := (← get).first + 1
  if line < first then fail
  for _ in [0:(line - first).toNat] do
    match ← takeLine with
    | none => fail
    | some line => if !skips then save line

/-- Look for a line that matches, from the next one on; `keep` tells whether lines before it are taken. At
most `fuel` lines. -/
def findMatch (p : Regex.Pattern) (takes skips : Bool) : (fuel : Nat) → Sectioning Bool
  | 0 => return false
  | fuel + 1 => do
    let s ← get
    match s.lines[s.seen]? with
    | none => return false
    | some line =>
      set { s with seen := s.seen + 1 }
      let body := if line.getLast? = some '\n' then line.dropLast else line
      if p.occursIn {} body then return true
      if takes then
        if let some line ← takeLine then
          if !skips then save line
      findMatch p takes skips fuel

/-- End a section at a distance from a line that matches. -/
def cutAtMatch (style : SectionStyle) (c : SectionCut) (p : Regex.Pattern) (distance : Int) (skips : Bool)
    (time : Nat) : Sectioning Unit := do
  if !skips then begin
  let size := (← get).lines.size
  if !(← findMatch p (distance ≥ 0) skips (size + 1)) then
    let isForever := c.again = .forever
    if !isForever then
      task (Task.complain (inQuotes c.text ++ ": match not found" ++ timeText time))
    if !skips then
      saveRest (size + 1)
      finish style
    throw (if isForever then .finished else .complaint "")
  let line : Int := (← get).seen + distance
  takeUpTo c.text skips line
  if !skips then finish style
  if distance > 0 then modify fun s => { s with seen := line.toNat }
  if style.omitsMatched then let _ ← takeLine

/-- Cut at one place as often as is asked for; `fuel` bounds that. -/
def cutAgain (style : SectionStyle) (c : SectionCut) : (fuel : Nat) → (time : Nat) → Sectioning Unit
  | 0, _ => return ()
  | fuel + 1, time => do
    let isWanted : Bool := match c.again with
      | .times n => time ≤ n
      | .forever => true
    if isWanted then
      match c.place with
      | .line n => cutAtLine style n time
      | .matching p distance skips => cutAtMatch style c p distance skips time
      cutAgain style c fuel (time + 1)

/-- Cut at all places, and write what is left. -/
def cutAll (style : SectionStyle) (cuts : List SectionCut) : Sectioning Unit := do
  let size := (← get).lines.size
  for c in cuts do cutAgain style c (2 * size + 4) 0
  begin
  saveRest (size + 1)
  finish style

end Sectioning

namespace SectionStyle

/-- Write the sections of a text: 0 when all went well. -/
def sections (style : SectionStyle) (cuts : List SectionCut) (text : String) : Task Nat := do
  let lines := (closedRecords '\n' text).toArray
  let (outcome, s) ← (Sectioning.cutAll style cuts).run.run { lines }
  match outcome with
  | .ok () => return 0
  | .error .finished => return 0
  | .error (.complaint text) =>
    if text ≠ "" then Task.complain text
    let (_, s) ← (Sectioning.finish style).run.run s
    if !style.keeps then
      for path in s.made do
        let _ ← Task.change fun files cwd => files.removeFile cwd path
    return 1

end SectionStyle

/-- Cut an input into sections: `csplit [-ksz] [-b format] [-f prefix] [-n digits] file place…`. -/
def csplit (args : List String) : Task Nat :=
  let table : OptionTable :=
    { flags := "ksqz", valued := "bfn", words := ["suppress-matched"]
      names := [("suffix-format", "b"), ("prefix", "f"), ("keep-files", "k"), ("digits", "n"), ("quiet", "s"),
        ("silent", "s"), ("elide-empty-files", "z")] }
  withOptions table args fun a => do
    let digits := (a.value? "n").getD "2"
    match Text.readDigits? digits.toList, a.operands with
    | none, _ => failWith 1 ("invalid number: " ++ inQuotes digits)
    | _, [] => misuse "missing operand" 1
    | _, [file] => misuse ("missing operand after " ++ inQuotes file) 1
    | some count, file :: places =>
      let format := (a.value? "b").getD ("%0" ++ toString count ++ "d")
      let pieces := readFormat (programPrintf (← read).charset) (format.length + 1) format.toList
      let isNumber (p : FormatPiece) : Bool := match p with
        | .conversion c => "diouxX".toList.contains c.letter
        | _ => false
      let isBad (p : FormatPiece) : Bool := match p with
        | .text _ => false
        | p => !isNumber p
      if let some bad := pieces.find? isBad then
        let letter := match bad with
          | .conversion c => c.letter.toString
          | _ => ""
        return (← failWith 1 ("invalid conversion specifier in suffix: " ++ letter))
      if pieces.countP isNumber = 0 then
        return (← failWith 1 "missing % conversion specification in suffix")
      if pieces.countP isNumber > 1 then
        return (← failWith 1 "too many % conversion specifications in suffix")
      let style : SectionStyle :=
        { lead := (a.value? "f").getD "xx", format := pieces, keeps := a.has "k", tells := !a.hasAny ["s", "q"]
          omitsEmpty := a.has "z", omitsMatched := a.has "suppress-matched" }
      let (files, cwd) ← Task.place
      if file ≠ "-" then
        if let .error e := files.resolve cwd file then
          return (← failWith 1 ("cannot open " ++ shellQuoted file ++ " for reading: " ++ e.wording))
      match SectionCut.readAll 0 places with
      | .error complaint => failWith 1 complaint
      | .ok (cuts, warnings) =>
        for warning in warnings do Task.complain warning
        match ← readInput file with
        | .error e => failWith 1 ("read error: " ++ e.wording)
        | .ok text => style.sections cuts text

end CommandSpec.Utility
