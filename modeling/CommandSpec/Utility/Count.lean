import CommandSpec.Text.Blank
import CommandSpec.Text.Integer
import CommandSpec.Utility.Inputs
import CommandSpec.Utility.Outcome

/-!
# `wc`

`wc` counts the lines, words and bytes of its inputs.
-/

namespace CommandSpec.Text

/-! ## Columns

On a terminal most characters take one column, those of the scripts of East Asia two, and marks that
are set over or under the character before them none. -/

/-- Whether a number lies in one of some ranges. -/
def isInRanges (ranges : List (Nat × Nat)) (n : Nat) : Bool :=
  ranges.any fun (low, high) => low ≤ n && n ≤ high

/-- The characters that take two columns. -/
def wideRanges : List (Nat × Nat) :=
  [(0x1100, 0x115F), (0x231A, 0x231B), (0x2329, 0x232A), (0x23E9, 0x23EC), (0x2E80, 0x303E),
    (0x3041, 0x33FF), (0x3400, 0x4DBF), (0x4E00, 0xA4CF), (0xA960, 0xA97C), (0xAC00, 0xD7A3),
    (0xF900, 0xFAFF), (0xFE10, 0xFE19), (0xFE30, 0xFE6F), (0xFF01, 0xFF60), (0xFFE0, 0xFFE6),
    (0x16FE0, 0x18CFF), (0x1B000, 0x1B2FF), (0x1F300, 0x1F64F), (0x1F680, 0x1F6FC), (0x1F900, 0x1F9FF),
    (0x1FA70, 0x1FAFF), (0x20000, 0x2FFFD), (0x30000, 0x3FFFD)]

/-- The characters that take no column. -/
def markRanges : List (Nat × Nat) :=
  [(0x300, 0x36F), (0x483, 0x489), (0x591, 0x5BD), (0x610, 0x61A), (0x64B, 0x65F), (0x6D6, 0x6DC),
    (0x1AB0, 0x1ACE), (0x1DC0, 0x1DFF), (0x200B, 0x200F), (0x202A, 0x202E), (0x2060, 0x2064),
    (0x20D0, 0x20F0), (0xFE00, 0xFE0F), (0xFE20, 0xFE2F), (0xFEFF, 0xFEFF), (0xE0100, 0xE01EF)]

/-- How many columns a character takes that can be shown. -/
def width (c : Char) : Nat :=
  if isInRanges markRanges c.toNat then 0
  else if isInRanges wideRanges c.toNat then 2
  else 1

end CommandSpec.Text

namespace CommandSpec.Utility

/-! ## Counting -/

/-- Lines, words, characters and bytes, and the width of the widest line. -/
structure Counts where
  lines : Nat := 0
  words : Nat := 0
  characters : Nat := 0
  bytes : Nat := 0
  longest : Nat := 0
  deriving Inhabited

/-- What a character is to one who counts. -/
inductive Counted where
  /-- A blank that ends a word, of a width. -/
  | blank (c : Char) (width : Nat)
  /-- A character that can be seen, of a width. -/
  | visible (width : Nat)
  /-- A character that cannot be seen. -/
  | unseen
  /-- A byte of no character. -/
  | stray
  deriving DecidableEq, Repr, Inhabited

/-- What a part of a text is to one who counts. -/
def Counted.ofPart (charset : Charset) : Utf8.Part → Counted
  | .stray _ => stray
  | .character c =>
    if c = ' ' || ('\t' ≤ c && c ≤ '\r') then blank c (if c = ' ' then 1 else 0)
    else if c.toNat < 0x80 then if isShowable c then visible 1 else unseen
    else if charset = .bytes || c.toNat < 0xA0 then unseen
    else if isBlank c || c.toNat = 0x2060 then blank c (Text.width c)
    else visible (Text.width c)

namespace Counts

/-- How many words a text has, which are parts between blanks that can be seen; `inside` tells whether
one is going on. -/
def countWords : (inside : Bool) → List Counted → Nat
  | _, [] => 0
  | inside, c :: cs =>
    match c with
    | .blank _ _ => countWords false cs
    | .visible _ => (if inside then 0 else 1) + countWords true cs
    | _ => countWords inside cs

/-- The width of the widest line of a text, of which `here` columns are taken in the current line. -/
def widest : (here : Nat) → List Counted → Nat
  | here, [] => here
  | here, c :: cs =>
    match c with
    | .blank c width =>
      if c = '\n' || c = '\r' || c = '\x0c' then max here (widest 0 cs)
      else if c = '\t' then widest (here + 8 - here % 8) cs
      else widest (here + width) cs
    | .visible width => widest (here + width) cs
    | _ => widest here cs

/-- The counts of a text. -/
def ofText (charset : Charset) (text : String) : Counts :=
  let counted := (charset.parts text.toList).map (Counted.ofPart charset)
  { lines := text.toList.count '\n'
    words := countWords false counted
    characters := counted.countP (· ≠ .stray)
    bytes := text.length
    longest := widest 0 counted }

/-- The counts of two texts together. -/
def add (a b : Counts) : Counts :=
  ⟨a.lines + b.lines, a.words + b.words, a.characters + b.characters, a.bytes + b.bytes,
    max a.longest b.longest⟩

/-- The counts that options ask for; without any, lines, words and bytes. -/
def shown (a : Arguments) (c : Counts) : List Nat :=
  let all := !a.hasAny ["c", "l", "L", "m", "w"]
  (if all || a.has "l" then [c.lines] else []) ++ (if all || a.has "w" then [c.words] else []) ++
  (if a.has "m" then [c.characters] else []) ++ (if all || a.has "c" then [c.bytes] else []) ++
  (if a.has "L" then [c.longest] else [])

end Counts

/-- A number in a column of a given width. -/
def column (width n : Nat) : String :=
  let digits := toString n
  .ofList (List.replicate (width - digits.length) ' ') ++ digits

/-- What is known of an input before it is read: the size of a file, or that it has none. -/
inductive InputSize where
  | known (bytes : Nat)
  | unknown
  | unreachable
  deriving DecidableEq, Repr

/-- The size of an input. -/
def inputSize (operand : String) : Task InputSize := do
  let ofNode (n : Node) : InputSize :=
    match n.content with
    | .file bytes => .known bytes.size
    | _ => .unknown
  if operand = "-" then
    let (files, _) ← Task.place
    match ← Task.call (Call.file? 0) with
    | none => return .unreachable
    | some (_, f) => return ofNode (Task.nodeOf files f.stream)
  else return ((← Task.node? operand).map ofNode).getD .unreachable

/-- The width of the columns of `wc`: enough for all files together, and at least seven when the
size of an input is not known. -/
def columnWidth (sizes : List InputSize) : Nat :=
  let total := sumOf (sizes.map fun
    | .known n => n
    | _ => 0)
  max (toString total).length (if sizes.contains .unknown then 7 else 1)

/-- One input of `wc`: its counts, or why it could not be read. -/
def countInput (operand : String) : Task (Except String Counts) := do
  if operand = "" then return .error "invalid zero-length file name"
  match ← readInput operand with
  | .ok text => return .ok (.ofText (← read).charset text)
  | .error e => return .error (plainComplaint operand e)

/-- Count inputs, one row each. Rows have titles unless there is only standard input; `measured` are
the inputs whose sizes make the columns wide enough. -/
def countInputs (a : Arguments) (titled : Bool) (measured operands : List String) : Task Nat := do
  let sizes ← measured.mapM inputSize
  let counted ← operands.mapM fun o => do return (o, ← countInput o)
  let total := counted.foldl (fun t r => t.add (r.2.toOption.getD {})) {}
  let isOne := measured.length = 1 && (total.shown a).length = 1
  let width := if isOne then 1 else columnWidth sizes
  let row (c : Counts) (title : String) : String :=
    " ".intercalate ((c.shown a).map (column width)) ++ (if title = "" then "" else " " ++ title)
  let put (c : Counts) (title : String) : Task Unit :=
    Task.printLine (row c title)
  for (operand, found) in counted do
    let title := if titled then forShell operand else ""
    match found with
    | .ok counts => put counts title
    | .error e =>
      Task.complain e
      if (← Task.node? operand).any Node.isDirectory then put {} title
  if operands.length > 1 then put total "total"
  return if counted.all fun r => r.2.toOption.isSome then 0 else 1

/-- Count inputs, one row each: `wc [-clLmw] [file…]`. -/
def wc (args : List String) : Task Nat :=
  let table : OptionTable :=
    { flags := "clLmw", valuedWords := ["files0-from"]
      names := [("bytes", "c"), ("chars", "m"), ("lines", "l"), ("words", "w"), ("max-line-length", "L")] }
  withOptions table args fun a => do
    match a.value? "files0-from" with
    | none =>
      let operands := orStdin a.operands
      countInputs a (!a.operands.isEmpty) operands operands
    | some list =>
      if let extra :: _ := a.operands then
        return (← misuse ("extra operand " ++ inQuotes extra
          ++ "\nfile operands cannot be combined with --files0-from") 1)
      match ← readInput list with
      | .error e =>
        Task.complain ("cannot open " ++ shellQuoted list ++ " for reading: " ++ e.wording)
        return 1
      | .ok text =>
        let names := recordsOf true text
        let isAllowed (k : Nat) (name : String) : Task Bool := do
          if name = "" then
            refuse (forShell list ++ ":" ++ toString (k + 1) ++ ": invalid zero-length file name")
          else if name = "-" && list = "-" then
            refuse "when reading file names from stdin, no file name of '-' allowed"
          else return true
        let allowed ← names.zipIdx.filterM fun (name, k) => isAllowed k name
        let operands := allowed.map Prod.fst
        let status ← countInputs a true (if list = "-" then [] else operands) operands
        return if operands.length = names.length then status else 1

end CommandSpec.Utility
