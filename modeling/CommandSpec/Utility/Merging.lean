import CommandSpec.Text.Integer
import CommandSpec.Utility.Outcome
import CommandSpec.Utility.Records

/-!
# `comm` and `join`

Two files whose lines are in order are gone through together. `comm` tells which lines they share, and
`join` puts lines together that have a field in common. A file that is out of order is complained about
when that may have led to a wrong result.
-/

namespace CommandSpec.Utility

/-! ## Two files -/

/-- Whether the order of the files is looked at. -/
inductive OrderCheck where
  /-- Only after lines without a partner. -/
  | whenUnpaired
  | always
  | never
  deriving DecidableEq, Repr, Inhabited

/-- The check that options ask for. -/
def OrderCheck.ofArguments (a : Arguments) : OrderCheck :=
  match a.last? ["check-order", "nocheck-order"] with
  | some ("check-order", _) => always
  | some _ => never
  | none => whenUnpaired

/-- Open two inputs, or complain. -/
def openBoth (first second : String) : Task (Option (Nat × Nat)) := do
  let open' (name : String) : Task (Option Nat) := do
    if name = "-" then return some 0
    match ← Task.openPath name .read with
    | .ok fd => return some fd
    | .error e =>
      Task.complain (forShell name ++ ": " ++ e.wording)
      return none
  match ← open' first with
  | none => return none
  | some a =>
    match ← open' second with
    | none => return none
    | some b => return some (a, b)

/-- The two operands, or a complaint. -/
def withTwoOperands (a : Arguments) (run : String → String → Task Nat) : Task Nat :=
  match a.operands with
  | [] => misuse "missing operand" 1
  | [first] => misuse ("missing operand after " ++ inQuotes first) 1
  | [first, second] => run first second
  | _ :: _ :: extra :: _ => misuse ("extra operand " ++ inQuotes extra) 1

/-- A record without the character that ends it. -/
def withoutEnd (ending : Char) (record : List Char) : List Char :=
  if record.getLast? = some ending then record.dropLast else record

/-! ## Lines in common -/

/-- What `comm` shows. -/
structure CommonView where
  first : Bool := true
  second : Bool := true
  both : Bool := true
  separator : String := "\t"
  ending : Char := '\n'
  total : Bool := false
  check : OrderCheck := .whenUnpaired
  names : String × String := ("", "")
  deriving Inhabited

/-- One of two files that are compared. -/
structure CommonSide where
  reader : RecordReader
  /-- The line that is looked at, and the two lines before it. -/
  line : Option (List Char) := none
  before : Option (List Char) := none
  earlier : Option (List Char) := none
  /-- Whether it was complained about the order. -/
  blamed : Bool := false
  count : Nat := 0
  deriving Inhabited

namespace CommonView

/-- The columns before a line of one file or of both. -/
def lead (v : CommonView) (o : Ordering) : String :=
  match o with
  | .lt => ""
  | .gt => if v.first then v.separator else ""
  | .eq => (if v.first then v.separator else "") ++ (if v.second then v.separator else "")

/-- Whether lines of one file or of both are shown. -/
def shows (v : CommonView) (o : Ordering) : Bool :=
  match o with
  | .lt => v.first
  | .gt => v.second
  | .eq => v.both

/-- Go on to the next line of a file, and look at the order: the file, and whether all is well enough
to go on. -/
def step (v : CommonView) (unpaired isSecond : Bool) (s : CommonSide) : Task (CommonSide × Bool) := do
  let (record, reader, fault) ← s.reader.next
  if let some e := fault then
    Task.complain (forShell (if isSecond then v.names.2 else v.names.1) ++ ": " ++ e.wording)
    return ({ s with reader }, false)
  let line := record.map (withoutEnd v.ending)
  let s := { s with reader, line, before := s.line, earlier := s.before }
  let looked := match line with
    | some _ => (s.before, line)
    | none => (s.earlier, s.before)
  let isWrong := match looked with
    | (some a, some b) => b < a
    | _ => false
  let isLookedAt := match v.check with
    | .always => true
    | .never => false
    | .whenUnpaired => unpaired
  if isLookedAt && isWrong && !s.blamed then
    Task.complain ((if isSecond then "file 2" else "file 1") ++ " is not in sorted order")
    return ({ s with blamed := true }, v.check ≠ .always)
  return (s, true)

/-- Go through two files together; at most `fuel` lines. -/
def walk (v : CommonView) : (fuel : Nat) → (unpaired : Bool) → (shared : Nat) → CommonSide → CommonSide → Task Nat
  | 0, _, _, _, _ => return 0
  | fuel + 1, unpaired, shared, a, b => do
    let order? : Option (Ordering × List Char) := match a.line, b.line with
      | none, none => none
      | some x, none => some (.lt, x)
      | none, some y => some (.gt, y)
      | some x, some y => some (if x < y then (.lt, x) else if y < x then (.gt, y) else (.eq, y))
    match order? with
    | none =>
      if v.total then
        Task.print (v.separator.intercalate [toString a.count, toString b.count, toString shared, "total"]
          ++ v.ending.toString)
      if a.blamed || b.blamed then return (← failWith 1 "input is not in sorted order")
      return 0
    | some (order, line) =>
      if v.shows order then Task.print (v.lead order ++ .ofList line ++ v.ending.toString)
      if ← Task.isRefused then return 1
      let unpaired := unpaired || order ≠ .eq
      let a := if order = .lt then { a with count := a.count + 1 } else a
      let b := if order = .gt then { b with count := b.count + 1 } else b
      let (a, fineA) ← if order ≠ .gt then v.step unpaired false a else pure (a, true)
      if !fineA then return 1
      let (b, fineB) ← if order ≠ .lt then v.step unpaired true b else pure (b, true)
      if !fineB then return 1
      v.walk fuel unpaired (if order = .eq then shared + 1 else shared) a b

end CommonView

/-- Tell which lines two files share: `comm [-123z] file file`. -/
def comm (args : List String) : Task Nat :=
  let table : OptionTable :=
    { flags := "123z", names := [("zero-terminated", "z")], words := ["check-order", "nocheck-order", "total"]
      valuedWords := ["output-delimiter"] }
  withOptions table args fun a => do
    let separators := a.options.filterMap fun o => if o.1 = "output-delimiter" then some o.2 else none
    if separators.any (· ≠ separators.headD "") then return (← failWith 1 "multiple output delimiters specified")
    withTwoOperands a fun first second => do
      let separator := match separators with
        | [] => "\t"
        | "" :: _ => "\x00"
        | s :: _ => s
      let v : CommonView :=
        { first := !a.has "1", second := !a.has "2", both := !a.has "3", separator, ending := recordEnd (a.has "z")
          total := a.has "total", check := .ofArguments a, names := (first, second) }
      match ← openBoth first second with
      | none => return 1
      | some (x, y) =>
        let start (fd : Nat) (isSecond : Bool) : Task (CommonSide × Bool) :=
          v.step false isSecond { reader := { fd, ending := v.ending } }
        let (left, fine) ← start x false
        if !fine then return 1
        let (right, fine) ← start y true
        if !fine then return 1
        v.walk Task.patience false 0 left right

/-! ## Fields in common -/

/-- A part of a joined line. -/
inductive JoinPart where
  /-- The field that both lines have in common. -/
  | shared
  | field (ofSecond : Bool) (n : Nat)
  deriving DecidableEq, Repr, Inhabited

/-- How lines are cut into fields. -/
inductive FieldCut where
  | blanks
  | char (c : Char)
  | whole
  deriving DecidableEq, Repr, Inhabited

/-- Whether a character stands between fields, if no other is named. -/
def isFieldBlank (c : Char) : Bool :=
  c = ' ' || c = '\t' || c = '\n'

/-- The fields of a line. After blanks at the end of the line there is an empty one; at most `fuel`. -/
def blankFields : (fuel : Nat) → List Char → List (List Char)
  | 0, _ => []
  | fuel + 1, cs =>
    let field := cs.takeWhile (!isFieldBlank ·)
    match cs.drop field.length with
    | [] => [field]
    | rest => field :: blankFields fuel (rest.dropWhile isFieldBlank)

/-- The fields of a line. -/
def FieldCut.fields (cut : FieldCut) (line : List Char) : List (List Char) :=
  if line.isEmpty then []
  else
    match cut with
    | blanks =>
      match line.dropWhile isFieldBlank with
      | [] => []
      | cs => blankFields (cs.length + 1) cs
    | char c => (line.splitOn c)
    | whole => [line]

/-- How lines are joined. -/
structure LineJoin where
  /-- The places of the fields in common, counted from zero. -/
  fields : Nat × Nat := (0, 0)
  cut : FieldCut := .blanks
  /-- Whether lines without a partner are shown. -/
  unpaired : Bool × Bool := (false, false)
  /-- Whether joined lines are shown. -/
  paired : Bool := true
  /-- What stands for an empty field. -/
  filler : List Char := []
  /-- What a joined line is made of, if that is not all. -/
  parts : Option (List JoinPart) := none
  /-- How many fields of each file are shown, if the first lines tell. -/
  counts : Option (Nat × Nat) := none
  /-- Whether the first lines tell how many fields are shown. -/
  counted : Bool := false
  /-- Whether the first lines are joined whatever they have in common. -/
  headed : Bool := false
  ignoresCase : Bool := false
  ending : Char := '\n'
  check : OrderCheck := .whenUnpaired
  names : String × String := ("", "")
  deriving Inhabited

/-- A line that is joined. -/
structure JoinLine where
  text : List Char := []
  fields : List (List Char) := []
  deriving Inhabited

namespace LineJoin

/-- Compare the fields that two lines should have in common. -/
def compare (j : LineJoin) (a b : Option (List Char)) : Ordering :=
  let fold (cs : List Char) : List Char := if j.ignoresCase then cs.map Char.toUpper else cs
  let x := fold (a.getD [])
  let y := fold (b.getD [])
  if x < y then .lt else if y < x then .gt else .eq

/-- The field of a line that is compared. -/
def key (j : LineJoin) (ofSecond : Bool) (l : JoinLine) : Option (List Char) :=
  l.fields[if ofSecond then j.fields.2 else j.fields.1]?

/-- A field of a line, perhaps missing, as it is shown. -/
def shown (j : LineJoin) (l : Option JoinLine) (n : Nat) : List Char :=
  match l.bind fun l => l.fields[n]? with
  | some [] => j.filler
  | some cs => cs
  | none => j.filler

/-- The character between the fields of joined lines. -/
def separator (j : LineJoin) : Char :=
  match j.cut with
  | .blanks => ' '
  | .char c => c
  | .whole => '\n'

/-- Two lines joined; one of them may be missing. -/
def joined (j : LineJoin) (a b : Option JoinLine) : List Char :=
  let sharedField := if a.isSome then j.shown a j.fields.1 else j.shown b j.fields.2
  let others (l : Option JoinLine) (place : Nat) (count : Option Nat) : List (List Char) :=
    let n := count.getD ((l.map fun l => l.fields.length).getD 0)
    ((List.range n).filter (· ≠ place)).map (j.shown l)
  let cells := match j.parts with
    | some parts => parts.map fun
      | .shared => sharedField
      | .field false n => j.shown a n
      | .field true n => j.shown b n
    | none =>
      sharedField :: others a j.fields.1 (j.counts.map Prod.fst) ++ others b j.fields.2 (j.counts.map Prod.snd)
  List.intercalate [j.separator] cells ++ [j.ending]

end LineJoin

/-- One of two files that are joined. -/
structure JoinSide where
  reader : RecordReader
  isSecond : Bool
  /-- Lines that were read and are looked at. -/
  lines : List JoinLine := []
  previous : Option JoinLine := none
  /-- How many lines were read. -/
  number : Nat := 0
  blamed : Bool := false
  deriving Inhabited

namespace LineJoin

/-- Read a line of a file and look at the order. -/
def readLine (j : LineJoin) (sawUnpaired : Bool) (s : JoinSide) : Task (Option JoinLine × JoinSide × Bool) := do
  let (record, reader, fault) ← s.reader.next
  if let some e := fault then
    Task.complain ("read error: " ++ e.wording)
    return (none, { s with reader }, false)
  match record with
  | none => return (none, { s with reader }, true)
  | some record =>
    let text := withoutEnd j.ending record
    let line : JoinLine := { text, fields := j.cut.fields text }
    let number := s.number + 1
    let isWrong := match s.previous with
      | some p => j.compare (j.key s.isSecond p) (j.key s.isSecond line) = .gt
      | none => false
    let isLookedAt := match j.check with
      | .always => true
      | .never => false
      | .whenUnpaired => sawUnpaired
    let blames := isLookedAt && isWrong && !s.blamed
    if blames then
      Task.complain ((if s.isSecond then j.names.2 else j.names.1) ++ ":" ++ toString number ++ ": is not sorted: "
        ++ .ofList text)
    let s := { s with reader, number, previous := some line, blamed := s.blamed || blames }
    return (some line, s, !(blames && j.check = .always))

/-- Read lines of a file as long as they have a field in common with another line: the first line that
has not, if there is one. At most `fuel` lines. -/
def readGroup (j : LineJoin) (sawUnpaired : Bool) (key : Option (List Char)) :
    (fuel : Nat) → JoinSide → Task (List JoinLine × Option JoinLine × JoinSide × Bool)
  | 0, s => return ([], none, s, true)
  | fuel + 1, s => do
    let (line?, s, fine) ← j.readLine sawUnpaired s
    if !fine then return ([], none, s, false)
    match line? with
    | none => return ([], none, s, true)
    | some l =>
      if j.compare (j.key s.isSecond l) key ≠ .eq then return ([], some l, s, true)
      let (ls, next, s, fine) ← readGroup j sawUnpaired key fuel s
      return (l :: ls, next, s, fine)

/-- Write two lines joined. -/
def put (j : LineJoin) (a b : Option JoinLine) : Task Unit :=
  Task.print (.ofList (j.joined a b))

/-- Join lines until one of the files has ended: what is left of each, and whether all went well. At most
`fuel` lines. -/
def walk (j : LineJoin) : (fuel : Nat) → (sawUnpaired : Bool) → (a b : Option JoinLine) → JoinSide → JoinSide →
    Task (Option JoinLine × Option JoinLine × JoinSide × JoinSide × Bool × Bool)
  | 0, sawUnpaired, a, b, s, t => return (a, b, s, t, sawUnpaired, true)
  | fuel + 1, sawUnpaired, a, b, s, t => do
    if ← Task.isRefused then return (none, none, s, t, sawUnpaired, false)
    match a, b with
    | some x, some y =>
      match j.compare (j.key false x) (j.key true y) with
      | .lt =>
        if j.unpaired.1 then j.put a none
        let (a, s, fine) ← j.readLine sawUnpaired s
        if !fine then return (none, none, s, t, sawUnpaired, false)
        walk j fuel true a b s t
      | .gt =>
        if j.unpaired.2 then j.put none b
        let (b, t, fine) ← j.readLine sawUnpaired t
        if !fine then return (none, none, s, t, sawUnpaired, false)
        walk j fuel true a b s t
      | .eq =>
        let (xs, a, s, fine) ← j.readGroup sawUnpaired (j.key true y) Task.patience s
        if !fine then return (none, none, s, t, sawUnpaired, false)
        let (ys, b, t, fine) ← j.readGroup sawUnpaired (j.key false x) Task.patience t
        if !fine then return (none, none, s, t, sawUnpaired, false)
        if j.paired then
          for l in x :: xs do
            for m in y :: ys do j.put (some l) (some m)
        walk j fuel sawUnpaired a b s t
    | _, _ => return (a, b, s, t, sawUnpaired, true)

/-- Go through the rest of a file that has no partners any more; at most `fuel` lines. -/
def walkRest (j : LineJoin) (sawUnpaired shows : Bool) : (fuel : Nat) → JoinSide → Task (JoinSide × Bool)
  | 0, s => return (s, true)
  | fuel + 1, s => do
    let (line?, s, fine) ← j.readLine sawUnpaired s
    if !fine then return (s, false)
    match line? with
    | none => return (s, true)
    | some l =>
      if shows then if s.isSecond then j.put none (some l) else j.put (some l) none
      if s.blamed && !shows then return (s, true)
      walkRest j sawUnpaired shows fuel s

/-- Join two files. -/
def run (j : LineJoin) (first second : Nat) : Task Nat := do
  let start (fd : Nat) (isSecond : Bool) : JoinSide := { reader := { fd, ending := j.ending }, isSecond }
  let (a, s, fine) ← j.readLine false (start first false)
  if !fine then return 1
  let (b, t, fine) ← j.readLine false (start second true)
  if !fine then return 1
  let width (l : Option JoinLine) : Nat := (l.map fun l => l.fields.length).getD 0
  let j := if j.counted then { j with counts := some (width a, width b) } else j
  let (a, b, s, t, fine) ← if j.headed && (a.isSome || b.isSome) then do
      j.put (some (a.getD {})) (some (b.getD {}))
      let (a, s, fineA) ← if a.isSome then j.readLine false { s with previous := none } else pure (a, s, true)
      let (b, t, fineB) ← if b.isSome then j.readLine false { t with previous := none } else pure (b, t, true)
      pure (a, b, s, t, fineA && fineB)
    else pure (a, b, s, t, true)
  if !fine then return 1
  let (a, b, s, t, saw, fine) ← j.walk Task.patience false a b s t
  if !fine then return 1
  let checks := j.check ≠ .never && !(s.blamed && t.blamed)
  let (s, saw, fine) ← if (j.unpaired.1 || checks) && a.isSome then do
      if j.unpaired.1 then j.put a none
      let saw := saw || b.isSome
      let (s, fine) ← j.walkRest saw j.unpaired.1 Task.patience s
      pure (s, saw, fine)
    else pure (s, saw, true)
  if !fine then return 1
  let (t, fine) ← if (j.unpaired.2 || checks) && b.isSome then do
      if j.unpaired.2 then j.put none b
      let saw := saw || a.isSome
      j.walkRest saw j.unpaired.2 Task.patience t
    else pure (t, true)
  if !fine then return 1
  if s.blamed || t.blamed then return (← failWith 1 "input is not in sorted order")
  return 0

end LineJoin

/-- The number of a field, counted from one, or the complaint. -/
def readFieldNumber (s : String) : Except String Nat :=
  match Text.readNumber? s with
  | some (n + 1) => .ok n
  | _ => .error ("invalid field number: " ++ inQuotes s)

/-- The part of a joined line that a text tells of, or the complaint. -/
def readJoinPart (s : String) : Except String JoinPart :=
  let field (ofSecond : Bool) (rest : List Char) : Except String JoinPart :=
    match rest with
    | '.' :: number => (readFieldNumber (.ofList number)).map (.field ofSecond)
    | _ => .error ("invalid field specifier: " ++ inQuotes s)
  match s.toList with
  | ['0'] => .ok .shared
  | '0' :: _ => .error ("invalid field specifier: " ++ inQuotes s)
  | '1' :: rest => field false rest
  | '2' :: rest => field true rest
  | _ => .error ("invalid file number in field spec: " ++ inQuotes s)

/-- The parts of a joined line that a text lists, or the complaint. -/
def readJoinParts (s : String) : Except String (List JoinPart) :=
  let cut := s.toList.splitBy fun a b => !(", \t".toList.contains a || ", \t".toList.contains b)
  (cut.filter fun cs => !cs.all ", \t".toList.contains).mapM fun cs => readJoinPart (.ofList cs)

/-- How lines are joined as one option asks, or the complaint. -/
def LineJoin.withOption (j : LineJoin) (option value : String) : Except String LineJoin := do
  let fileNumber : Except String Bool := match value with
    | "1" => .ok false
    | "2" => .ok true
    | _ => .error ("invalid field number: " ++ inQuotes value)
  let unpaired (isSecond : Bool) : Bool × Bool :=
    if isSecond then (j.unpaired.1, true) else (true, j.unpaired.2)
  match option with
  | "a" => return { j with unpaired := unpaired (← fileNumber) }
  | "v" => return { j with unpaired := unpaired (← fileNumber), paired := false }
  | "e" =>
    if j.filler ≠ [] && j.filler ≠ value.toList then throw "conflicting empty-field replacement strings"
    return { j with filler := value.toList }
  | "i" => return { j with ignoresCase := true }
  | "1" => return { j with fields := (← readFieldNumber value, j.fields.2) }
  | "2" => return { j with fields := (j.fields.1, ← readFieldNumber value) }
  | "j" =>
    let n ← readFieldNumber value
    return { j with fields := (n, n) }
  | "o" =>
    if value = "auto" then return { j with counted := true }
    return { j with parts := some ((j.parts.getD []) ++ (← readJoinParts value)) }
  | "t" =>
    let cut ← match value.toList with
      | [] => pure FieldCut.whole
      | [c] => pure (.char c)
      | ['\\', '0'] => pure (.char '\x00')
      | _ => throw ("multi-character tab " ++ inQuotes value)
    if j.cut ≠ .blanks && j.cut ≠ cut then throw "incompatible tabs"
    return { j with cut }
  | "z" => return { j with ending := '\x00' }
  | "header" => return { j with headed := true }
  | _ => return j

/-- Join the lines of two files that have a field in common: `join [options] file file`. -/
def join (args : List String) : Task Nat :=
  let table : OptionTable :=
    { flags := "iz", valued := "aejotv12", names := [("ignore-case", "i"), ("zero-terminated", "z")]
      words := ["check-order", "nocheck-order", "header"] }
  withOptions table args fun a => do
    let extra := if a.has "o" then a.operands.take (a.operands.length - 2) else []
    let options := a.options ++ extra.map fun s => ("o", s)
    match options.foldlM (fun (j : LineJoin) (option, value) => j.withOption option value) {} with
    | .error complaint => failWith 1 complaint
    | .ok j =>
      withTwoOperands { a with operands := a.operands.drop extra.length } fun first second => do
        if first = "-" && second = "-" then return (← failWith 1 "both files cannot be standard input")
        match ← openBoth first second with
        | none => return 1
        | some (x, y) =>
          let j : LineJoin := { j with check := .ofArguments a, names := (first, second) }
          j.run x y

end CommandSpec.Utility
