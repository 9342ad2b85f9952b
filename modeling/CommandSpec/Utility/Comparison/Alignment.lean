import CommandSpec.Number

/-!
# Aligning two sequences

Two sequences are aligned so that few elements are left without a counterpart. A point in the middle of
a shortest way from one sequence to the other one is found by searching from both ends at once; it
splits the task in two. Elements that are only in one sequence are left out before, and so are some
that occur very often. At last runs of elements without counterparts are moved as far down as they
go, so that they join where they can.
-/

namespace CommandSpec.Utility.Comparison

/-- For every element of two sequences, whether it has no counterpart. -/
structure Marks where
  first : Array Bool
  second : Array Bool
  deriving Inhabited

/-! ## The shortest way -/

/-- A part of both sequences. -/
structure Window where
  xoff : Int
  xlim : Int
  yoff : Int
  ylim : Int
  deriving Inhabited

/-- How far a search has come on diagonals from `low` to `high`. -/
structure Frontier where
  reached : Array Int
  low : Int
  high : Int
  deriving Inhabited

/-- The element at an index, if that is in a sequence. -/
def elementAt (s : Array Nat) (i : Int) : Option Nat :=
  if 0 ≤ i then s[i.toNat]? else none

section

variable (a b : Array Nat)

/-- Go down a diagonal as long as the elements are the same, at most `fuel` steps. -/
def slideDown (w : Window) : (fuel : Nat) → (x y : Int) → Int
  | 0, x, _ => x
  | fuel + 1, x, y =>
    if x < w.xlim && y < w.ylim && elementAt a x = elementAt b y then slideDown w fuel (x + 1) (y + 1) else x

/-- Go up a diagonal as long as the elements are the same, at most `fuel` steps. -/
def slideUp (w : Window) : (fuel : Nat) → (x y : Int) → Int
  | 0, x, _ => x
  | fuel + 1, x, y =>
    if w.xoff < x && w.yoff < y && elementAt a (x - 1) = elementAt b (y - 1) then slideUp w fuel (x - 1) (y - 1)
    else x

/-- What a frontier has reached on a diagonal; `shift` is the index of the diagonal zero. -/
def Frontier.get (f : Frontier) (shift d : Int) : Int :=
  (f.reached[(d + shift).toNat]?).getD 0

/-- Note what was reached on a diagonal. -/
def Frontier.set (f : Frontier) (shift d x : Int) : Frontier :=
  { f with reached := f.reached.setIfInBounds (d + shift).toNat x }

/-- The frontier with one more diagonal on either side, or one less where there is none. -/
def Frontier.widen (f : Frontier) (shift least most outside : Int) : Frontier :=
  let f := if least < f.low then { f.set shift (f.low - 2) outside with low := f.low - 1 }
    else { f with low := f.low + 1 }
  if f.high < most then { f.set shift (f.high + 2) outside with high := f.high + 1 }
  else { f with high := f.high - 1 }

/-- Advance on every second diagonal from `d` down by one step of a search. `advance` gives what is reached
on a diagonal from its neighbours; a point for which `meets` holds ends the search. At most `fuel`
diagonals. -/
def sweep (shift : Int) (advance : (below above d : Int) → Int) (meets : (d x : Int) → Bool) :
    (fuel : Nat) → (d : Int) → Frontier → Frontier × Option (Int × Int)
  | 0, _, f => (f, none)
  | fuel + 1, d, f =>
    if d < f.low then (f, none)
    else
      let x := advance (f.get shift (d - 1)) (f.get shift (d + 1)) d
      let f := f.set shift d x
      if meets d x then (f, some (x, x - d)) else sweep shift advance meets fuel (d - 2) f

/-- The point where a search from the start and one from the end meet; at most `fuel` steps of each. -/
def findMiddle (w : Window) (shift : Int) (size : Nat) : (fuel : Nat) → Frontier → Frontier → Int × Int
  | 0, _, _ => (w.xlim, w.ylim)
  | fuel + 1, forward, backward =>
    let least := w.xoff - w.ylim
    let most := w.xlim - w.yoff
    let odd := (w.xoff - w.yoff - (w.xlim - w.ylim)) % 2 ≠ 0
    let forward := forward.widen shift least most (-1)
    let down (below above d : Int) : Int :=
      let x := if below < above then above else below + 1
      slideDown a b w size x (x - d)
    let meetsBackward (d x : Int) : Bool :=
      odd && backward.low ≤ d && d ≤ backward.high && backward.get shift d ≤ x
    match sweep shift down meetsBackward size forward.high forward with
    | (_, some point) => point
    | (forward, none) =>
      let backward := backward.widen shift least most (2 ^ 62)
      let up (below above d : Int) : Int :=
        let x := if below < above then below else above - 1
        slideUp a b w size x (x - d)
      let meetsForward (d x : Int) : Bool :=
        !odd && forward.low ≤ d && d ≤ forward.high && x ≤ forward.get shift d
      match sweep shift up meetsForward size backward.high backward with
      | (_, some point) => point
      | (backward, none) => findMiddle w shift size fuel forward backward

/-- The middle of a shortest way through a window. -/
def middle (w : Window) : Int × Int :=
  let size := a.size + b.size + 6
  let shift : Int := b.size + 3
  let blank : Array Int := Array.replicate (size + 4) 0
  let start (d x : Int) : Frontier := Frontier.set { reached := blank, low := d, high := d } shift d x
  findMiddle a b w shift size size (start (w.xoff - w.yoff) w.xoff) (start (w.xlim - w.ylim) w.xlim)

/-- Mark some elements. -/
def markRange (marks : Array Bool) (start stop : Int) : Array Bool :=
  (List.range (stop - start).toNat).foldl (fun m k => m.setIfInBounds (start.toNat + k) true) marks

/-- Mark the elements in a window that have no counterpart; at most `fuel` levels of parts. -/
def markWindow : (fuel : Nat) → Window → Marks → Marks
  | 0, _, m => m
  | fuel + 1, w, m =>
    let size := a.size + b.size + 2
    let x := slideDown a b w size w.xoff w.yoff
    let w := { w with xoff := x, yoff := w.yoff + (x - w.xoff) }
    let x := slideUp a b w size w.xlim w.ylim
    let w := { w with xlim := x, ylim := w.ylim - (w.xlim - x) }
    if w.xoff = w.xlim then { m with second := markRange m.second w.yoff w.ylim }
    else if w.yoff = w.ylim then { m with first := markRange m.first w.xoff w.xlim }
    else
      let (x, y) := middle a b w
      markWindow fuel { w with xoff := x, yoff := y } (markWindow fuel { w with xlim := x, ylim := y } m)

/-- Mark the elements that have no counterpart. -/
def markChanges : Marks :=
  markWindow a b (a.size + b.size + 2) ⟨0, a.size, 0, b.size⟩
    ⟨Array.replicate a.size false, Array.replicate b.size false⟩

end

/-! ## Elements that are left out before -/

/-- Whether an element is left out. -/
inductive Omission where
  | kept
  | omitted
  /-- It occurs so often in the other sequence that it may be left out. -/
  | doubtful
  deriving DecidableEq, Repr, Inhabited

/-- The greatest number of occurrences that is not doubtful in a sequence of some length. -/
def manyOccurrences (length : Nat) : Nat :=
  let rec go (fuel many n : Nat) : Nat := match fuel with
    | 0 => many
    | fuel + 1 => if n / 4 = 0 then many else go fuel (2 * many) (n / 4)
  go 64 5 (length / 64)

/-- An approximate square root of a quarter of a number, and one more. -/
def doubtfulRun (length : Nat) : Nat :=
  let rec go (fuel least n : Nat) : Nat := match fuel with
    | 0 => least
    | fuel + 1 => if n / 4 = 0 then least else go fuel (2 * least) (n / 4)
  go 64 1 (length / 4) + 1

/-- Keep all doubtful elements. -/
def keepDoubtful (run : List Omission) : List Omission :=
  run.map fun o => if o = .doubtful then .kept else o

/-- Keep the doubtful elements that stand together in runs of at least some length. -/
def keepRuns (least : Nat) : (fuel : Nat) → List Omission → List Omission
  | 0, run => run
  | _ + 1, [] => []
  | fuel + 1, o :: rest =>
    if o ≠ .doubtful then o :: keepRuns least fuel rest
    else
      let more := rest.takeWhile (· = .doubtful)
      let here := o :: more
      (if least ≤ here.length then keepDoubtful here else here) ++ keepRuns least fuel (rest.drop more.length)

/-- Keep the doubtful elements at the start, up to three omitted ones in a row or to an omitted one after
eight. `place` elements are before, the last `row` of them omitted. -/
def keepStart : (place row : Nat) → List Omission → List Omission
  | _, _, [] => []
  | place, row, o :: rest =>
    if 8 ≤ place && o = .omitted then o :: rest
    else
      match o with
      | .omitted => if row = 2 then o :: rest else o :: keepStart (place + 1) (row + 1) rest
      | _ => .kept :: keepStart (place + 1) 0 rest

/-- Settle a run that starts and ends with omitted elements. -/
def settleRun (run : List Omission) : List Omission :=
  let doubtful := run.count .doubtful
  if run.length < 4 * doubtful then keepDoubtful run
  else
    let run := keepRuns (doubtfulRun run.length) (run.length + 1) run
    (keepStart 0 0 (keepStart 0 0 run).reverse).reverse

/-- Settle which doubtful elements are omitted: only those among omitted ones. At most `fuel` elements. -/
def settle : (fuel : Nat) → List Omission → List Omission
  | 0, os => os
  | _ + 1, [] => []
  | fuel + 1, .omitted :: rest =>
    let more := rest.takeWhile (· ≠ .kept)
    let all := .omitted :: more
    let tail := all.reverse.takeWhile (· = .doubtful)
    let run := all.take (all.length - tail.length)
    settleRun run ++ tail.map (fun _ => .kept) ++ settle fuel (rest.drop more.length)
  | fuel + 1, _ :: rest => .kept :: settle fuel rest

/-- Which elements of a sequence are left out; `counts` tells how often each is in the other one. -/
def omissions (counts : Nat → Nat) (s : Array Nat) : List Omission :=
  let many := manyOccurrences s.size
  let os := s.toList.map fun c =>
    if counts c = 0 then Omission.omitted else if many < counts c then .doubtful else .kept
  settle (os.length + 1) os

/-- How often every class occurs. -/
def countClasses (classes : Nat) (s : Array Nat) : Array Nat :=
  s.foldl (fun counts c => counts.modify c (· + 1)) (Array.replicate classes 0)

/-! ## Moving runs -/

/-- Where a run of marked elements is, and the place in the other sequence. -/
structure MarkedRun where
  marks : Array Bool
  start : Nat
  stop : Nat
  other : Nat
  deriving Inhabited

/-- Whether an element is marked. -/
def isMarked (marks : Array Bool) (i : Nat) : Bool :=
  (marks[i]?).getD false

/-- The place after all marked elements from one on; at most `fuel`. -/
def skipMarked (marks : Array Bool) : (fuel i : Nat) → Nat
  | 0, i => i
  | fuel + 1, i => if isMarked marks i then skipMarked marks fuel (i + 1) else i

/-- The place of the first of the marked elements right before a place; at most `fuel`. -/
def skipMarkedBack (marks : Array Bool) : (fuel i : Nat) → Nat
  | 0, i => i
  | fuel + 1, i => if 0 < i && isMarked marks (i - 1) then skipMarkedBack marks fuel (i - 1) else i

section

variable (classes : Array Nat) (other : Array Bool)

/-- Move a run up as far as the element before it is the same as its last one. -/
def moveUp : (fuel : Nat) → MarkedRun → MarkedRun
  | 0, r => r
  | fuel + 1, r =>
    if 0 < r.start && classes[r.start - 1]? = classes[r.stop - 1]? then
      let marks := (r.marks.setIfInBounds (r.start - 1) true).setIfInBounds (r.stop - 1) false
      let start := skipMarkedBack marks marks.size (r.start - 1)
      moveUp fuel { marks, start, stop := r.stop - 1, other := previous other r.other }
    else r
where
  /-- The unmarked element before a place in the other sequence. -/
  previous (other : Array Bool) (j : Nat) : Nat :=
    let rec go : (fuel i : Nat) → Nat
      | 0, i => i
      | fuel + 1, i => if isMarked other (i - 1) then go fuel (i - 1) else i - 1
    go other.size j

/-- Move a run down as far as the element after it is the same as its first one; `last` is the end of the
run where it last had a counterpart among the marked ones. -/
def moveDown : (fuel : Nat) → MarkedRun → (last : Nat) → MarkedRun × Nat
  | 0, r, last => (r, last)
  | fuel + 1, r, last =>
    if r.stop < classes.size && classes[r.start]? = classes[r.stop]? then
      let marks := (r.marks.setIfInBounds r.start false).setIfInBounds r.stop true
      let stop := skipMarked marks marks.size (r.stop + 1)
      let next := skipMarked other other.size (r.other + 1)
      let last := if isMarked other (r.other + 1) then stop else last
      moveDown fuel { marks, start := r.start + 1, stop, other := next } last
    else (r, last)

/-- Move a run up and down until it does not grow any more. -/
def joinRuns : (fuel : Nat) → MarkedRun → MarkedRun × Nat
  | 0, r => (r, classes.size)
  | fuel + 1, r =>
    let length := r.stop - r.start
    let r := moveUp classes other (classes.size + 1) r
    let last := if 0 < r.other && isMarked other (r.other - 1) then r.stop else classes.size
    let (r, last) := moveDown classes other (classes.size + 1) r last
    if r.stop - r.start = length then (r, last) else joinRuns fuel r

/-- Move a run back up to an end. -/
def moveBackTo (last : Nat) : (fuel : Nat) → MarkedRun → MarkedRun
  | 0, r => r
  | fuel + 1, r =>
    if last < r.stop then
      let marks := (r.marks.setIfInBounds (r.start - 1) true).setIfInBounds (r.stop - 1) false
      moveBackTo last fuel { marks, start := r.start - 1, stop := r.stop - 1, other := moveUp.previous other r.other }
    else r

/-- Move all runs from a place on; at most `fuel` elements and runs. -/
def moveRuns : (fuel : Nat) → (i j : Nat) → (marks : Array Bool) → Array Bool
  | 0, _, _, marks => marks
  | fuel + 1, i, j, marks =>
    if classes.size ≤ i then marks
    else if !isMarked marks i then
      moveRuns fuel (i + 1) (skipMarked other other.size j + 1) marks
    else
      let stop := skipMarked marks marks.size i
      let r : MarkedRun := { marks, start := i, stop, other := skipMarked other other.size j }
      let (r, last) := joinRuns classes other (classes.size + 2) r
      let r := moveBackTo other last (classes.size + 1) r
      moveRuns fuel r.stop r.other r.marks

end

/-! ## Altogether -/

/-- The elements of two sequences that have no counterpart in a good alignment. The elements are classes
below a number. With `minimal` nothing is left out before. -/
def align (minimal : Bool) (classes : Nat) (a b : Array Nat) : Marks :=
  let kept (s other : Array Nat) : List (Nat × Nat) :=
    let counts := countClasses classes other
    let os := omissions (fun c => (counts[c]?).getD 0) s
    ((s.toList.zipIdx).zip os).filterMap fun (e, o) => if minimal || o = .kept then some e else none
  let keptA := (kept a b).toArray
  let keptB := (kept b a).toArray
  let inner := markChanges (keptA.map Prod.fst) (keptB.map Prod.fst)
  let spread (size : Nat) (kept : Array (Nat × Nat)) (marks : Array Bool) : Array Bool :=
    (kept.zip marks).foldl (fun m (e, isMarked) => m.setIfInBounds e.2 isMarked) (Array.replicate size true)
  let first := spread a.size keptA inner.first
  let second := spread b.size keptB inner.second
  let first := moveRuns a second (2 * a.size + 2) 0 0 first
  { first, second := moveRuns b first (2 * b.size + 2) 0 0 second }

end CommandSpec.Utility.Comparison
