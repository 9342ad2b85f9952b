import CommandSpec.Number
import CommandSpec.Text.Quoting

/-!
# Names on a line

Names can be shown in columns that are as narrow as their longest names allow, in as many of them as
fit on a line. They are arranged down the columns or across them. Between columns there are tabs where
these come out right, and else spaces. Names can also stand in one row with commas between them.
-/

namespace CommandSpec.Utility

/-- A text with spaces before it. -/
def padLeft (width : Nat) (text : String) : String :=
  .ofList (List.replicate (width - text.length) ' ') ++ text

/-- A text with spaces after it. -/
def padRight (width : Nat) (text : String) : String :=
  text ++ .ofList (List.replicate (width - text.length) ' ')

/-- The length of the longest text. -/
def widest (texts : List String) : Nat :=
  texts.foldl (fun n t => max n t.length) 0

/-- How lines are laid out. -/
structure Layout where
  /-- Whether names go across the columns and not down. -/
  across : Bool
  /-- The length that lines stay below; 0 if they may have any. -/
  lineLength : Nat := 80
  /-- The distance between tab stops; 0 if there are none. -/
  tab : Nat := 8
  deriving DecidableEq, Repr, Inhabited

namespace Layout

/-- How many rows some names take in so many columns. -/
def rowCount (names columns : Nat) : Nat :=
  (names + columns - 1) / columns

/-- The names in each of so many columns. -/
def inColumns (l : Layout) (columns : Nat) (names : List String) : List (List String) :=
  let rows := rowCount names.length columns
  let numbered := names.zipIdx
  (List.range columns).map fun c =>
    (numbered.filter fun (_, k) => (if l.across then k % columns else k / rows) = c).map Prod.fst

/-- The widths of so many columns; all but the last have a gap after them. -/
def widths (l : Layout) (columns : Nat) (names : List String) : List Nat :=
  (l.inColumns columns names).zipIdx.map fun (column, c) =>
    let gap := if c + 1 = columns then 0 else 2
    max 3 (if column.isEmpty then 0 else widest column + gap)

/-- Whether so many columns fit on a line. -/
def fits (l : Layout) (names : List String) (columns : Nat) : Bool :=
  sumOf (l.widths columns names) < l.lineLength

/-- How many columns there are. -/
def columnCount (l : Layout) (names : List String) : Nat :=
  let most := min names.length (max 1 (l.lineLength / 3))
  ((List.range most).reverse.map (· + 1)).find? (l.fits names) |>.getD 1

/-- The blanks that lead from one place on a line to another; at most `fuel` of them. -/
def indent (l : Layout) : (fuel fromPlace toPlace : Nat) → List Char
  | 0, _, _ => []
  | fuel + 1, a, b =>
    if a ≥ b then []
    else if l.tab ≠ 0 && b / l.tab > (a + 1) / l.tab then
      '\t' :: indent l fuel (a + l.tab - a % l.tab) b
    else ' ' :: indent l fuel (a + 1) b

/-- One line of names in columns; `place` is where the line has come to. -/
def writeLine (l : Layout) : (place : Nat) → (names : List String) → (widths : List Nat) → String
  | _, [], _ => "\n"
  | _, [name], _ => name ++ "\n"
  | place, name :: next :: rest, width :: widths =>
    name ++ .ofList (l.indent (place + width) (place + name.length) (place + width))
      ++ writeLine l (place + width) (next :: rest) widths
  | place, name :: next :: rest, [] => name ++ " " ++ writeLine l place (next :: rest) []

/-- Names in columns. -/
def write (l : Layout) (names : List String) : String :=
  if names.isEmpty then ""
  else if l.lineLength = 0 then "  ".intercalate names ++ "\n"
  else
    let columns := l.columnCount names
    let rows := rowCount names.length columns
    let numbered := names.zipIdx
    let line (r : Nat) : List String :=
      (numbered.filter fun (_, k) => (if l.across then k / columns else k % rows) = r).map Prod.fst
    String.join ((List.range rows).map fun r => l.writeLine 0 (line r) (l.widths columns names))

end Layout

/-- Names with commas between them, on lines below a length; `place` is where the line has come to. -/
def withCommas (lineLength : Nat) : (place : Nat) → List String → String
  | _, [] => ""
  | _, [name] => name ++ "\n"
  | place, name :: next :: rest =>
    let place := place + name.length
    let fits := lineLength = 0 || place + next.length + 2 < lineLength
    name ++ (if fits then ", " else ",\n")
      ++ withCommas lineLength (if fits then place + 2 else 0) (next :: rest)

end CommandSpec.Utility
