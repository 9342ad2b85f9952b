import CommandSpec.Utility.Comparison.Layout

/-!
# Two texts side by side

The lines of two texts are shown in two columns, with a sign between them that tells how they differ.
Tabs go on to the next stop as long as they stay in their column.
-/

namespace CommandSpec.Utility.Comparison

/-- How two columns are shown. -/
structure Columns where
  expandsTabs : Bool := false
  tabSize : Nat := 8
  /-- The width of the whole. -/
  width : Nat := 130
  /-- Whether only changes are shown. -/
  omitsCommon : Bool := false
  /-- Whether only the left one of two lines that are the same is shown. -/
  leftOnly : Bool := false
  deriving Inhabited

namespace Columns

/-- The least width of the space between the columns. -/
def gutter : Nat := 3

/-- Where the second column starts if there is room for it. -/
def offset (c : Columns) : Nat :=
  let step := if c.expandsTabs then 1 else c.tabSize
  let spread := step + gutter
  let free := c.width / 2 + spread / 2 + (if c.width % 2 = 1 && spread % 2 = 1 then 1 else 0)
  free - free % step

/-- The width of either column. -/
def half (c : Columns) : Nat :=
  if c.offset ≤ gutter || c.width ≤ c.offset then 0 else min (c.offset - gutter) (c.width - c.offset)

/-- Where the second column starts. -/
def second (c : Columns) : Nat :=
  if c.half = 0 then c.width else c.offset

/-- Go from one place to another one with tabs and blanks; at most `fuel` tabs. -/
def advance (c : Columns) : (fuel : Nat) → (place target : Nat) → List Char
  | 0, place, target => List.replicate (target - place) ' '
  | fuel + 1, place, target =>
    let stop := place + c.tabSize - place % c.tabSize
    if !c.expandsTabs && stop ≤ target then '\t' :: advance c fuel stop target
    else List.replicate (target - place) ' '

/-- A line as far as it fits into a column, and where it ends. `place` is where the line has come, and
`shown` what of it was written. -/
def fit (c : Columns) (start : Nat) : (place shown : Nat) → List Char → List Char × Nat
  | _, shown, [] => ([], shown)
  | place, shown, ch :: cs =>
    let more (text : List Char) (found : List Char × Nat) : List Char × Nat := (text ++ found.1, found.2)
    match ch with
    | '\t' =>
      let n := c.tabSize - place % c.tabSize
      if place ≠ shown then fit c start (place + n) shown cs
      else
        let stop := shown + n
        if c.expandsTabs then
          let stop := min stop c.half
          more (List.replicate (stop - shown) ' ') (fit c start (place + n) (max shown stop) cs)
        else if stop < c.half then more [ch] (fit c start (place + n) stop cs)
        else fit c start (place + n) shown cs
    | '\r' => more (ch :: c.advance start 0 start) (fit c start 0 0 cs)
    | '\x08' =>
      if place = 0 || c.half ≤ place - 1 then fit c start (place - 1) shown cs
      else if shown ≤ place - 1 then
        more (List.replicate (place - 1 - shown) ' ') (fit c start (place - 1) (place - 1) cs)
      else more [ch] (fit c start (place - 1) (place - 1) cs)
    | _ =>
      if ' ' ≤ ch && ch ≤ '~' then
        if place < c.half then more [ch] (fit c start (place + 1) (place + 1) cs) else fit c start (place + 1) shown cs
      else more (if place < c.half then [ch] else []) (fit c start place shown cs)

/-- One line of the output: what stands on either side, and the sign between. -/
def row (c : Columns) (left : Option Line) (sign : Char) (right : Option Line) : String :=
  let (text, place) := (left.map fun x => c.fit 0 0 0 x.text).getD ([], 0)
  let leftClosed := left.any Line.closed
  let rightClosed := right.any Line.closed
  let sign := if sign = '|' && leftClosed ≠ rightClosed then (if leftClosed then '/' else '\\') else sign
  let (middle, place) := if sign = ' ' then ([], place) else
    let target := (c.half + c.second - 1) / 2
    (c.advance c.width place target ++ [sign], target + 1)
  let rest := match right with
    | some x =>
      if x.text.isEmpty && x.closed then []
      else c.advance c.width place c.second ++ (c.fit c.second 0 0 x.text).1
    | none => []
  .ofList (text ++ middle ++ rest) ++ if leftClosed || rightClosed then "\n" else ""

/-- Lines that are not changed. -/
def common (c : Columns) (left right : List Line) : String :=
  if c.omitsCommon then ""
  else if c.leftOnly then String.join (left.map fun x => c.row (some x) '(' none)
  else
    String.join ((left.zip right).map fun (x, y) => c.row (some x) ' ' (some y))
      ++ String.join ((right.drop left.length).map fun y => c.row none ')' (some y))
      ++ String.join ((left.drop right.length).map fun x => c.row (some x) '(' none)

/-- A change. -/
def change (c : Columns) (left right : List Line) : String :=
  String.join ((left.zip right).map fun (x, y) => c.row (some x) '|' (some y))
    ++ String.join ((right.drop left.length).map fun y => c.row none '>' (some y))
    ++ String.join ((left.drop right.length).map fun x => c.row (some x) '<' none)

/-- Both texts from some lines on. -/
def showFrom (c : Columns) (a b : Array Line) : (i j : Nat) → List Change → String
  | i, j, [] => c.common (a.extract i a.size).toList (b.extract j b.size).toList
  | i, j, ch :: rest =>
    c.common (a.extract i ch.start).toList (b.extract j ch.place).toList
      ++ c.change (ch.source.linesIn a) (ch.target.linesIn b) ++ showFrom c a b ch.stop ch.placeStop rest

/-- Both texts side by side. -/
def showAll (c : Columns) (t : Triviality) (a b : Array Line) (changes : List Change) : String :=
  c.showFrom a b 0 0 (changes.filter fun ch => !t.ignores a b [ch])

end Columns

end CommandSpec.Utility.Comparison
