import CommandSpec.Regex.Search
import CommandSpec.Text.CharClass
import CommandSpec.Text.Lines
import CommandSpec.Utility.Comparison.Alignment

/-!
# Changes between two texts

A change takes some lines away from one text and puts some lines of another text in their place. Which
lines are alike can be told in a loose way, in which letters of either case or blanks do not matter.
Changes in which only lines of no importance come and go can be left out.
-/

namespace CommandSpec.Utility.Comparison

/-- A line; the last one of a text may lack its newline. -/
structure Line where
  text : List Char
  closed : Bool := true
  deriving DecidableEq, Repr, Inhabited

/-- The lines of a text. `dropsReturns` takes away carriage returns before newlines, and `closes` gives the
last line the newline that it lacks. -/
def linesOf (dropsReturns closes : Bool) (text : String) : Array Line :=
  let lineOf (cs : List Char) : Line :=
    if cs.getLast? = some '\n' then
      let body := cs.dropLast
      { text := if dropsReturns && body.getLast? = some '\r' then body.dropLast else body }
    else { text := cs, closed := closes }
  ((Text.cutAfter (· == '\n') text.toList).map lineOf).toArray

/-- Whether a character is white space. -/
def isSpace (c : Char) : Bool :=
  ((Text.charClass? "space").map fun f => f c).getD false

/-- What does not matter when lines are compared. -/
structure Likeness where
  ignoresCase : Bool := false
  /-- Whether a tab is the same as the blanks up to the next stop. -/
  expandsTabs : Bool := false
  ignoresEnd : Bool := false
  /-- Whether one blank is the same as many. -/
  ignoresAmount : Bool := false
  ignoresAllSpace : Bool := false
  tabSize : Nat := 8
  deriving Inhabited

namespace Likeness

/-- Whether blanks at the end of a line do not matter. -/
def isLooseAtEnd (l : Likeness) : Bool :=
  l.ignoresEnd || l.ignoresAmount || l.ignoresAllSpace

/-- A text with its tabs replaced by blanks. -/
def expandTabs (size : Nat) : (column : Nat) → List Char → List Char
  | _, [] => []
  | column, c :: cs =>
    match c with
    | '\t' =>
      let n := size - column % size
      List.replicate n ' ' ++ expandTabs size (column + n) cs
    | '\x08' => c :: expandTabs size (column - 1) cs
    | '\r' => c :: expandTabs size 0 cs
    | _ => c :: expandTabs size (column + 1) cs

/-- A text with one blank for every run of white space. -/
def squeezeSpace : (inRun : Bool) → List Char → List Char
  | _, [] => []
  | inRun, c :: cs =>
    if isSpace c then (if inRun then squeezeSpace true cs else ' ' :: squeezeSpace true cs)
    else c :: squeezeSpace false cs

/-- A text without white space at its end. -/
def dropEnd (cs : List Char) : List Char :=
  (cs.reverse.dropWhile isSpace).reverse

/-- What of a line matters: lines are alike when it is the same. -/
def key (l : Likeness) (line : Line) : List Char × Bool :=
  let cs := if l.ignoresCase then line.text.map Char.toLower else line.text
  let cs :=
    if l.ignoresAllSpace then cs.filter fun c => !isSpace c
    else if l.ignoresAmount then squeezeSpace false (dropEnd cs)
    else
      let cs := if l.ignoresEnd then dropEnd cs else cs
      if l.expandsTabs then expandTabs l.tabSize 0 cs else cs
  (cs, line.closed || l.isLooseAtEnd)

end Likeness

/-- Numbers for some keys, the same for those that are the same, and how many numbers there are. -/
def numberKeys (keys : Array (List Char × Bool)) : Array Nat × Nat :=
  let texts := keys.map fun k => (if k.2 then "\n" else "") ++ String.ofList k.1
  let sorted := texts.zipIdx.toList.mergeSort fun a b => !(b.1 < a.1)
  let number (state : Array Nat × Nat × Option String) (entry : String × Nat) : Array Nat × Nat × Option String :=
    let (numbers, next, last) := state
    let next := if last = some entry.1 then next else next + 1
    (numbers.setIfInBounds entry.2 next, next, some entry.1)
  let (numbers, last, _) := sorted.foldl number (Array.replicate keys.size 0, 0, none)
  (numbers, last + 1)

/-- Lines of one text, counted from zero, in whose place lines of another text are put. -/
structure Change where
  start : Nat
  removed : Nat
  place : Nat
  inserted : Nat
  deriving DecidableEq, Repr, Inhabited

namespace Change

/-- The line after the removed ones. -/
def stop (c : Change) : Nat := c.start + c.removed

/-- The line after the inserted ones. -/
def placeStop (c : Change) : Nat := c.place + c.inserted

end Change

/-- The changes that marks stand for, from a place in each text on; at most `fuel` lines. -/
def changesFrom (m : Marks) : (fuel : Nat) → (i j : Nat) → List Change
  | 0, _, _ => []
  | fuel + 1, i, j =>
    if m.first.size ≤ i && m.second.size ≤ j then []
    else
      let stop := skipMarked m.first m.first.size i
      let placeStop := skipMarked m.second m.second.size j
      if stop = i && placeStop = j then changesFrom m fuel (i + 1) (j + 1)
      else ⟨i, stop - i, j, placeStop - j⟩ :: changesFrom m fuel stop placeStop

/-- How two texts are compared. -/
structure Method where
  likeness : Likeness := {}
  minimal : Bool := false
  /-- How many lines that are the same at either end of the texts are looked at. -/
  horizon : Nat := 0
  deriving Inhabited

/-- The changes that make one text another one. Lines that are the same at either end are left out first. -/
def changesBetween (m : Method) (a b : Array Line) : List Change :=
  let length (s : List (Line × Line)) : Nat := (s.takeWhile fun (x, y) => x = y).length
  let common := length (a.toList.zip b.toList)
  let start := common - m.horizon
  let mayEndAlike := (a.back?.map Line.closed).getD true = (b.back?.map Line.closed).getD true
  let fromEnd := min (length (a.toList.reverse.zip b.toList.reverse)) (min a.size b.size - start)
  let omitted := if mayEndAlike then fromEnd - m.horizon else 0
  let a := (a.extract start (a.size - omitted)).map m.likeness.key
  let b := (b.extract start (b.size - omitted)).map m.likeness.key
  let (numbers, count) := numberKeys (a ++ b)
  let marks := align m.minimal (count + 1) (numbers.extract 0 a.size) (numbers.extract a.size numbers.size)
  (changesFrom marks (a.size + b.size + 2) 0 0).map fun c => { c with start := c.start + start, place := c.place + start }

/-- Which lines are of no importance. -/
structure Triviality where
  /-- Whether empty lines are. -/
  empties : Bool := false
  /-- Whether a line of white space is empty. -/
  blanks : Bool := false
  patterns : List Regex.Pattern := []
  deriving Inhabited

namespace Triviality

/-- Whether a line is of no importance. -/
def holds (t : Triviality) (line : Line) : Bool :=
  (t.empties && (line.text.isEmpty || (t.blanks && line.text.all isSpace)))
    || t.patterns.any fun p => p.occursIn {} line.text

/-- Whether there are lines of no importance. -/
def isUsed (t : Triviality) : Bool :=
  t.empties || !t.patterns.isEmpty

/-- Whether only lines of no importance come and go in some changes. -/
def ignores (t : Triviality) (a b : Array Line) (changes : List Change) : Bool :=
  t.isUsed && changes.all fun c =>
    (a.extract c.start c.stop).all t.holds && (b.extract c.place c.placeStop).all t.holds

end Triviality

/-- Changes in groups that are shown together: those with at most twice `context` lines between them, or
fewer than `context` before one that can be ignored. -/
def groupChanges (context : Nat) (isIgnored : Change → Bool) : List Change → List (List Change)
  | [] => []
  | c :: cs =>
    match groupChanges context isIgnored cs with
    | (next :: group) :: groups =>
      let least := if isIgnored next then context else 2 * context + 1
      if next.start - c.stop < least then (c :: next :: group) :: groups else [c] :: (next :: group) :: groups
    | groups => [c] :: groups

end CommandSpec.Utility.Comparison
