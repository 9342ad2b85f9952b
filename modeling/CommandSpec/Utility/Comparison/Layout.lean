import CommandSpec.Utility.Comparison.Change

/-!
# How changes are shown

Changes are shown one by one with the lines they concern, or in *hunks* with lines around them, or as
commands of an editor that make one text the other one.
-/

namespace CommandSpec.Utility.Comparison

/-- The ways to show changes. -/
inductive Style where
  | normal
  | context
  | unified
  /-- Commands of an editor, the last ones first. -/
  | backwardCommands
  /-- Commands of an editor, as they would be typed. -/
  | forwardCommands
  /-- Commands that tell how many lines they concern. -/
  | countedCommands
  | sideBySide
  deriving DecidableEq, Repr, Inhabited

namespace Style

/-- Whether the style can tell that a line lacks its newline. -/
def showsOpenLines (s : Style) : Bool :=
  s ≠ .backwardCommands && s ≠ .forwardCommands

end Style

/-- How lines are written. -/
structure Layout where
  /-- How many lines around a change are shown with it. -/
  context : Nat := 0
  /-- Whether a tab stands between a mark and a line. -/
  tabAfterMark : Bool := false
  expandsTabs : Bool := false
  /-- Whether nothing stands before an empty line. -/
  bareEmpties : Bool := false
  tabSize : Nat := 8
  /-- The lines of which the last one is shown at the head of a hunk. -/
  headings : List Regex.Pattern := []
  deriving Inhabited

/-- What is said after a line that lacks its newline. -/
def openLineRemark : String := "\n\\ No newline at end of file\n"

namespace Layout

/-- The text of a line. -/
def body (l : Layout) (line : Line) : String :=
  .ofList (if l.expandsTabs then Likeness.expandTabs l.tabSize 0 line.text else line.text)

/-- A line as it is, without a mark. -/
def bare (l : Layout) (line : Line) : String :=
  l.body line ++ if line.closed then "\n" else ""

/-- A line with what stands before it, and a remark if it lacks its newline. -/
def after (l : Layout) (head : String) (line : Line) : String :=
  head ++ l.body line ++ if line.closed then "\n" else openLineRemark

/-- A line after a mark and a blank. -/
def marked (l : Layout) (mark : String) (line : Line) : String :=
  let isEmpty := l.bareEmpties && line.closed && line.text.isEmpty
  l.after (if isEmpty then (if mark = " " then "" else mark) else mark ++ (if l.tabAfterMark then "\t" else " ")) line

/-- A line right after a mark. -/
def joined (l : Layout) (mark : String) (line : Line) : String :=
  let isEmpty := l.bareEmpties && line.closed && line.text.isEmpty
  let mark := if isEmpty && mark = " " then "" else mark
  l.after (if l.tabAfterMark then (if mark = " " then "\t" else mark ++ (if isEmpty then "" else "\t")) else mark) line

end Layout

/-- A range of lines, counted from zero up to one that is not in it. -/
structure Range where
  start : Nat
  stop : Nat
  deriving DecidableEq, Repr, Inhabited

namespace Range

/-- A range as numbers of its first and its last line, or one number if they are the same; for an empty range
it is the number of the line before. -/
def write (mark : String) (r : Range) : String :=
  if r.start + 1 < r.stop then toString (r.start + 1) ++ mark ++ toString r.stop
  else toString r.stop

/-- A range as the number of its first line and how many there are, unless it is one. -/
def writeCounted (r : Range) : String :=
  if r.stop = r.start + 1 then toString r.stop
  else if r.stop = r.start then toString r.stop ++ ",0"
  else toString (r.start + 1) ++ "," ++ toString (r.stop - r.start)

/-- The range with more lines on either side, in a text that has some number of lines. -/
def widen (r : Range) (context size : Nat) : Range :=
  ⟨r.start - context, min (r.stop + context) size⟩

/-- The lines in the range. -/
def linesIn (r : Range) (lines : Array Line) : List Line :=
  (lines.extract r.start r.stop).toList

end Range

/-- The lines of the first text that a group of changes goes over. -/
def rangeOf (group : List Change) : Range :=
  ⟨(group.head?.map Change.start).getD 0, (group.getLast?.map Change.stop).getD 0⟩

/-- The lines of the second text that a group of changes goes over. -/
def placeOf (group : List Change) : Range :=
  ⟨(group.head?.map Change.place).getD 0, (group.getLast?.map Change.placeStop).getD 0⟩

namespace Change

/-- The letter for what a change does. -/
def letter (c : Change) : String :=
  if c.inserted = 0 then "d" else if c.removed = 0 then "a" else "c"

/-- The lines that a change removes. -/
def source (c : Change) : Range := ⟨c.start, c.stop⟩

/-- The lines that a change inserts. -/
def target (c : Change) : Range := ⟨c.place, c.placeStop⟩

end Change

section

variable (l : Layout) (a b : Array Line)

/-- A change with the lines it concerns. -/
def showPlain (c : Change) : String :=
  c.source.write "," ++ c.letter ++ c.target.write "," ++ "\n"
    ++ String.join ((c.source.linesIn a).map (l.marked "<"))
    ++ (if c.letter = "c" then "---\n" else "")
    ++ String.join ((c.target.linesIn b).map (l.marked ">"))

/-- Inserted lines for an editor that reads them up to a line with a dot: a line that is a dot is inserted in
another way. `isOpen` tells whether the editor still reads lines. -/
def insertLines : (isOpen : Bool) → List Line → String
  | isOpen, [] => if isOpen then ".\n" else ""
  | isOpen, line :: rest =>
    (if isOpen then "" else "a\n")
      ++ if line.text = ['.'] then "..\n.\ns/.//\n" ++ insertLines false rest
        else l.bare line ++ insertLines true rest

/-- A change as a command of an editor. -/
def showBackward (c : Change) : String :=
  c.source.write "," ++ c.letter ++ "\n" ++ if c.inserted = 0 then "" else insertLines l true (c.target.linesIn b)

/-- A change as a command that is typed. -/
def showForward (c : Change) : String :=
  c.letter ++ c.source.write " " ++ "\n"
    ++ if c.inserted = 0 then "" else String.join ((c.target.linesIn b).map l.bare) ++ ".\n"

/-- A change as commands that tell how many lines they concern. -/
def showCounted (c : Change) : String :=
  (if c.removed = 0 then "" else "d" ++ toString (c.start + 1) ++ " " ++ toString c.removed ++ "\n")
    ++ if c.inserted = 0 then ""
      else "a" ++ toString c.stop ++ " " ++ toString c.inserted ++ "\n"
        ++ String.join ((c.target.linesIn b).map l.bare)

/-- The last heading before a line, cut to fit. -/
def heading (line : Nat) : String :=
  let before := (a.extract 0 line).toList.reverse
  match before.find? fun x => l.headings.any fun p => p.occursIn {} x.text with
  | none => ""
  | some x =>
    let shown := ((x.text.dropWhile isSpace).take 40).reverse.dropWhile isSpace
    " " ++ String.ofList shown.reverse

/-- How the line with an index is marked in one of two texts: `own` and `other` are what a change has in this
text and in the other one. -/
def markFor (own other : Change → Range) (sign : String) (group : List Change) (i : Nat) : String :=
  match group.find? fun c => i < (own c).stop with
  | none => " "
  | some c => if (own c).start ≤ i then (if (other c).start < (other c).stop then "!" else sign) else " "

/-- A hunk that shows the lines of either text by themselves. -/
def showContext (group : List Change) : String :=
  let part (lines : Array Line) (r : Range) (own other : Change → Range) (sign edge : String) : String :=
    let r := r.widen l.context lines.size
    let numbers := if r.stop ≤ r.start + 1 then toString r.stop else r.write ","
    let isTouched := group.any fun c => (own c).start < (own c).stop
    let shown := if isTouched then (r.linesIn lines).zipIdx.map fun (x, k) =>
      l.marked (markFor own other sign group (r.start + k)) x else []
    edge ++ " " ++ numbers ++ " " ++ .ofList (List.replicate 4 (edge.toList.headD '-')) ++ "\n" ++ String.join shown
  let before := (rangeOf group).widen l.context a.size
  "***************" ++ heading l a before.start ++ "\n"
    ++ part a (rangeOf group) Change.source Change.target "-" "***"
    ++ part b (placeOf group) Change.target Change.source "+" "---"

/-- The lines of a hunk from one on: what is removed, then what is inserted, and what is in both texts in
between. -/
def unifiedLines (stop : Nat) : (i : Nat) → List Change → String
  | i, [] => String.join (((⟨i, stop⟩ : Range).linesIn a).map (l.joined " "))
  | i, c :: cs =>
    String.join (((⟨i, c.start⟩ : Range).linesIn a).map (l.joined " "))
      ++ String.join ((c.source.linesIn a).map (l.joined "-"))
      ++ String.join ((c.target.linesIn b).map (l.joined "+"))
      ++ unifiedLines stop c.stop cs

/-- A hunk that shows both texts together. -/
def showUnified (group : List Change) : String :=
  let source := (rangeOf group).widen l.context a.size
  let target := (placeOf group).widen l.context b.size
  "@@ -" ++ source.writeCounted ++ " +" ++ target.writeCounted ++ " @@" ++ heading l a source.start ++ "\n"
    ++ unifiedLines l a b source.stop source.start group

/-- All changes in a style that does not show texts side by side. -/
def showChanges (style : Style) (t : Triviality) (changes : List Change) : String :=
  let ignores (group : List Change) : Bool := t.ignores a b group
  let kept := changes.filter fun c => !ignores [c]
  match style with
  | .normal => String.join (kept.map (showPlain l a b))
  | .backwardCommands => String.join (kept.reverse.map (showBackward l b))
  | .forwardCommands => String.join (kept.map (showForward l b))
  | .countedCommands => String.join (kept.map (showCounted l b))
  | _ =>
    let groups := (groupChanges l.context (fun c => ignores [c]) changes).filter fun g => !ignores g
    String.join (groups.map (if style = .unified then showUnified l a b else showContext l a b))

end

end CommandSpec.Utility.Comparison
