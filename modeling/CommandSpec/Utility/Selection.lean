import CommandSpec.Text.Integer
import CommandSpec.Utility.Inputs

/-!
# `cut` and `rev`

`cut` keeps bytes or fields of every line by their positions; `rev` turns every line around.
-/

namespace CommandSpec.Utility

/-- Positions counted from 1, from a first to a last one; an open end is `none`. -/
structure PositionRange where
  first : Nat
  last : Option Nat
  deriving DecidableEq, Repr, Inhabited

namespace PositionRange

/-- Whether a position lies in the range. -/
def holds (r : PositionRange) (k : Nat) : Bool :=
  r.first ≤ k && r.last.all (k ≤ ·)

/-- Ranges in order of their starts, those that overlap joined to one. -/
def join : List PositionRange → List PositionRange
  | [] => []
  | r :: rest =>
    match join rest with
    | next :: more =>
      if r.last.all (next.first ≤ ·) then
        let last := do return max (← r.last) (← next.last)
        ⟨r.first, last⟩ :: more
      else r :: next :: more
    | [] => [r]

/-- The ranges of the positions from `start` on that lie in none of some ranges. -/
def gaps (start : Nat) : List PositionRange → List PositionRange
  | [] => [⟨start, none⟩]
  | r :: rest =>
    let before := if start < r.first then [⟨start, some (r.first - 1)⟩] else []
    before ++ r.last.elim [] fun last => gaps (last + 1) rest

end PositionRange

/-- What is wrong with a list of positions. -/
inductive ListFault where
  | zero
  | twoDashes
  | noEnds
  | decreasing
  | tooLarge (digits : String)
  | stray (rest : String)
  deriving DecidableEq, Repr

/-- The complaint about a list of fields, or of bytes. -/
def ListFault.message (fields : Bool) : ListFault → String
  | zero => if fields then "fields are numbered from 1"
    else "byte/character positions are numbered from 1"
  | twoDashes => if fields then "invalid field range" else "invalid byte or character range"
  | noEnds => "invalid range with no endpoint: -"
  | decreasing => "invalid decreasing range"
  | tooLarge digits => (if fields then "field number " else "byte/character offset ") ++ inQuotes digits
      ++ " is too large"
  | stray rest => (if fields then "invalid field value " else "invalid byte/character position ")
      ++ inQuotes rest

/-- Read the number at the head of a text: none without digits. -/
def leadingNat (cs : List Char) : Except ListFault (Option Nat × List Char) :=
  let digits := cs.takeWhile Char.isDigit
  let n := Text.digitsValue digits
  if n + 1 < 2 ^ 64 then .ok (if digits.isEmpty then none else some n, cs.drop digits.length)
  else .error (.tooLarge (.ofList digits))

/-- Read one range such as `3`, `3-5`, `3-` or `-5` at the head of a text. -/
def readRange (cs : List Char) : Except ListFault (PositionRange × List Char) := do
  let (low?, rest) ← leadingNat cs
  match rest with
  | '-' :: rest =>
    if low? = some 0 then throw .zero
    let (high?, rest) ← leadingNat rest
    if rest.head? = some '-' then throw .twoDashes
    if low?.isNone && high?.isNone && (rest.isEmpty || isDivider (rest.headD ',')) then throw .noEnds
    let first := low?.getD 1
    if rest.isEmpty || isDivider (rest.headD ',') then
      if high?.any (· < first) then throw .decreasing
    return (⟨first, high?⟩, rest)
  | rest =>
    if rest.isEmpty || isDivider (rest.headD ',') then
      if low?.getD 0 = 0 then throw .zero
    return (⟨low?.getD 0, low?⟩, rest)
where
  /-- Whether a character divides ranges. -/
  isDivider (c : Char) : Bool :=
    c = ',' || c = ' ' || c = '\t'

/-- Read a list of ranges such as `1,3-5`; blanks divide it as well as commas. At most `fuel` ranges
are read. -/
def readRanges : (fuel : Nat) → List Char → Except ListFault (List PositionRange)
  | 0, _ => .ok []
  | fuel + 1, cs => do
    let (range, rest) ← readRange cs
    match rest with
    | [] => return [range]
    | c :: more =>
      if readRange.isDivider c then return range :: (← readRanges fuel more)
      else throw (.stray (.ofList (c :: more)))

/-- What `cut` is asked to do. -/
structure Cut where
  fields : Bool
  ranges : List PositionRange
  delimiter : String := "\t"
  joint : String := "\t"
  /-- Whether bytes from different ranges are joined as fields are. -/
  joinsBytes : Bool := false
  onlyDelimited : Bool := false
  /-- The character that ends a line. -/
  ending : Char := '\n'

namespace Cut

/-- Whether a position is selected. -/
def selects (c : Cut) (k : Nat) : Bool :=
  c.ranges.any (·.holds k)

/-- The elements whose positions are selected, with their positions. -/
def selected {α : Type} (c : Cut) (items : List α) : List (Nat × α) :=
  ((List.range' 1 items.length).zip items).filter fun (k, _) => c.selects k

/-- The part of one line that `cut` keeps, if it keeps the line at all. -/
def line? (c : Cut) (line : String) : Option String :=
  if !c.fields then
    let kept := c.selected line.toList
    let starts (k : Nat) : Bool := c.joinsBytes && c.ranges.any (·.first = k)
    let shown := kept.map fun (k, b) => (if starts k then c.joint.toList else []) ++ [b]
    let lead := if kept.head?.any fun (k, _) => starts k then c.joint.length else 0
    some (.ofList (shown.flatten.drop lead))
  else
    match line.splitOn c.delimiter with
    | [_] => if c.onlyDelimited then none else some line
    | fields => some (c.joint.intercalate ((c.selected fields).map Prod.snd))

/-- The line with its end that `cut` makes of a line that may have one. -/
def write (c : Cut) (line : List Char) : List Char :=
  ((c.line? (.ofList (line.filter (· ≠ c.ending)))).map fun kept => kept.toList ++ [c.ending]).getD []

/-- What `cut` makes of a whole text whose lines are its fields. -/
def writeWhole (c : Cut) (text : String) : String :=
  let lines := closedRecords c.ending text
  let isDelimited := text.toList.contains c.ending
  let kept := (c.selected (lines.map fun l => String.ofList (l.filter (· ≠ c.ending)))).map Prod.snd
  if text = "" then ""
  else if !isDelimited then if c.onlyDelimited then "" else text.push c.ending
  else if c.onlyDelimited && lines.length = 1 && kept.isEmpty then ""
  else (c.joint.intercalate kept).push c.ending

/-- What options ask `cut` to do, or what is wrong with them. -/
def ofArguments (a : Arguments) : Except String Cut := do
  let lists := a.options.filter fun o => ["b", "c", "f"].contains o.1
  let delimiter := a.value? "d"
  let (letter, list) ← match lists with
    | [] => throw "you must specify a list of bytes, characters, or fields"
    | [one] => pure one
    | _ => throw "only one list may be specified"
  if delimiter.any (·.length > 1) then throw "the delimiter must be a single character"
  let fields := letter = "f"
  if !fields && delimiter.isSome then
    throw "an input delimiter may be specified only when operating on fields"
  if !fields && a.has "s" then
    throw "suppressing non-delimited lines makes sense\n\tonly when operating on fields"
  match readRanges (list.length + 1) list.toList with
  | .error e => throw (e.message fields)
  | .ok ranges =>
    let joined := PositionRange.join (ranges.mergeSort fun r s => r.first ≤ s.first)
    let orNul (d : String) : String := if d = "" then "\x00" else d
    let delimiter := (delimiter.map orNul).getD "\t"
    let joint := (a.value? "output-delimiter").map orNul
    return {
      fields, delimiter
      ranges := if a.has "complement" then PositionRange.gaps 1 joined else joined
      joint := joint.getD delimiter
      joinsBytes := joint.isSome
      onlyDelimited := a.has "s"
      ending := recordEnd (a.has "z") }

end Cut

/-- Keep fields (`cut -f list [-d delimiter] [-sz] [--complement] [--output-delimiter=text] [file…]`) or
bytes (`cut -c list [file…]`) of every line. -/
def cut (args : List String) : Task Nat :=
  let table : OptionTable :=
    { flags := "snz", valued := "bcfd", words := ["complement"], valuedWords := ["output-delimiter"]
      names := [("bytes", "b"), ("characters", "c"), ("fields", "f"), ("delimiter", "d"),
        ("only-delimited", "s"), ("zero-terminated", "z")] }
  withOptions table args fun a => do
    match Cut.ofArguments a with
    | .error e => misuse e 1
    | .ok c =>
      if c.fields && c.delimiter = c.ending.toString then
        let whole (fd : Nat) (_ : Unit) : Task (Unit × Option OsError) := do
          match ← Task.readAll fd with
          | .error e => return ((), some e)
          | .ok text =>
            Task.print (c.writeWhole text)
            return ((), none)
        let (_, ok) ← eachInput plainComplaint whole (orStdin a.operands) ()
        return if ok then 0 else 1
      else mapRecords c.ending c.write a.operands

/-- A line turned around; what ends it stays at its end. -/
def reverseLine (ending : Char) (line : List Char) : List Char :=
  (line.filter (· ≠ ending)).reverse ++ line.filter (· = ending)

/-- Write inputs with every line turned around: `rev [-0] [file…]`. The name `-` is a name like any
other. -/
def rev (args : List String) : Task Nat :=
  withOptions { flags := "0", names := [("zero", "0")] } args fun a => do
    let ending := recordEnd (a.has "0")
    if a.operands.isEmpty then return (← mapRecords ending (reverseLine ending) [])
    let complaint : InputComplaint := fun path e =>
      "cannot open " ++ (if path = "./-" then "-" else path) ++ ": " ++ e.wording
    let write (_ : Unit) (lines : List (List Char)) : Task Unit :=
      Task.print (.ofList (lines.flatMap (reverseLine ending)))
    let asNames := a.operands.map fun path => if path = "-" then "./-" else path
    let (_, ok) ← eachInput complaint (fun fd s => eachRecord fd ending write Task.patience [] s) asNames ()
    return if ok then 0 else 1

end CommandSpec.Utility
