import CommandSpec.Regex.Basic

/-!
# Automata

A regular expression without references is turned into instructions. A thread stands at one of them
and remembers where it started and what its groups have taken. All threads read the text together, in
the order in which they are preferred; of two threads at one instruction only the preferred one goes
on. So the time for a search does not depend on how many ways there are to match, and of all matches
that start first the longest is found, with its groups taken in the preferred way.
-/

namespace CommandSpec.Regex

/-- One instruction. Jumps are counted from the instruction itself. -/
inductive Instruction where
  | char (accepts : Char → Bool)
  | check (b : Boundary)
  /-- Note the place as the start or the end of a group. -/
  | note (group : Nat) (isStart : Bool)
  /-- Go on at two instructions, the first of them preferred. -/
  | fork (preferred other : Int)
  | jump (target : Int)
  deriving Inhabited

/-- Code that may be passed over, again and again or once. -/
def optionally (code : List Instruction) (again : Bool) : List Instruction :=
  let n : Int := code.length
  if again then .fork 1 (n + 2) :: code ++ [.jump (-(n + 1))] else .fork 1 (n + 1) :: code

/-- Code that may be run up to so many times. -/
def upTo (code : List Instruction) : Nat → List Instruction
  | 0 => []
  | n + 1 => optionally (code ++ upTo code n) false

/-- The instructions of an expression. A reference is never matched. -/
def code : Regex → List Instruction
  | empty => []
  | char f => [.char f]
  | boundary b => [.check b]
  | seq a b => a.code ++ b.code
  | either a b =>
    let first := a.code
    let second := b.code
    .fork 1 (first.length + 2) :: first ++ .jump (second.length + 1) :: second
  | repeated r least most =>
    let once := r.code
    (List.replicate least once).flatten ++ match most with
      | none => optionally once true
      | some n => upTo once (n - least)
  | group n r => .note n true :: r.code ++ [.note n false]
  | reference _ => [.char fun _ => false]

/-- An address in the code, reached by a part of the text. -/
structure Thread where
  address : Nat
  start : Nat
  /-- Where groups were begun. -/
  opened : List (Nat × Nat) := []
  /-- What groups have taken. -/
  groups : List (Nat × Nat × Nat) := []
  deriving Inhabited

namespace Thread

/-- The thread after a jump. -/
def move (t : Thread) (offset : Int) : Thread :=
  { t with address := (t.address + offset).toNat }

/-- The thread with the start or the end of a group noted. -/
def note (t : Thread) (n : Nat) (isStart : Bool) (here : Nat) : Thread :=
  if isStart then { t with opened := (n, here) :: t.opened.filter (·.1 ≠ n) }
  else { t with groups := (n, (t.opened.lookup n).getD here, here) :: t.groups.filter (·.1 ≠ n) }

/-- The match that a thread has found. -/
def found (t : Thread) (stop : Nat) : Match :=
  ⟨t.start, stop, t.groups⟩

end Thread

/-- The threads that wait for a character, the latest first, and the best match so far. -/
structure Front where
  waiting : List Thread := []
  seen : Array Bool
  best : Option (Thread × Nat) := none
  deriving Inhabited

/-- Whether a match of a thread is better than another one: it starts before it, or ends after it. -/
def isBetter (t : Thread) (stop : Nat) : Option (Thread × Nat) → Bool
  | none => true
  | some (other, otherStop) => t.start < other.start || (t.start = other.start && otherStop < stop)

/-- Let a thread go on until it waits for a character or has found a match; at most `fuel` instructions
in a row. -/
def advance (code : Array Instruction) (holds : Boundary → Bool) (here : Nat) :
    (fuel : Nat) → Thread → Front → Front
  | 0, _, f => f
  | fuel + 1, t, f =>
    if (f.seen[t.address]?).getD true then f
    else
      let f := { f with seen := f.seen.setIfInBounds t.address true }
      match code[t.address]? with
      | none => if isBetter t here f.best then { f with best := some (t, here) } else f
      | some (.char _) => { f with waiting := t :: f.waiting }
      | some (.check b) => if holds b then advance code holds here fuel (t.move 1) f else f
      | some (.note n isStart) =>
        advance code holds here fuel ((t.note n isStart here).move 1) f
      | some (.fork preferred other) =>
        advance code holds here fuel (t.move other) (advance code holds here fuel (t.move preferred) f)
      | some (.jump offset) => advance code holds here fuel (t.move offset) f

/-- Whether a thread may still find something better than what was found. -/
def mayImprove (best : Option (Thread × Nat)) (t : Thread) : Bool :=
  best.all fun (other, _) => t.start ≤ other.start

/-- Read the rest of a text with some threads, in the order in which they are preferred, and with a new
one at every place until a match is found, or at one place only. -/
def scan (code : Array Instruction) (rule : LineRule) (only : Option Nat) :
    (here : Nat) → (before : Option Char) → (threads : List Thread) → (best : Option (Thread × Nat)) →
    List Char → Option (Thread × Nat)
  | here, before, threads, best, cs =>
    let holds (b : Boundary) : Bool := rule.holds b before cs.head?
    let fuel := code.size + 2
    let front : Front := { seen := Array.replicate (code.size + 1) false, best }
    let front := threads.foldl (fun f t => advance code holds here fuel t f) front
    let mayStart := front.best.isNone && only.all (· = here)
    let front := if mayStart then advance code holds here fuel { address := 0, start := here } front else front
    match cs with
    | [] => front.best
    | c :: rest =>
      let accepts (t : Thread) : Bool := match code[t.address]? with
        | some (.char f) => f c
        | _ => false
      let threads := front.waiting.reverse.filterMap fun t =>
        if mayImprove front.best t && accepts t then some (t.move 1) else none
      if threads.isEmpty && (front.best.isSome || only.isSome) then front.best
      else scan code rule only (here + 1) (some c) threads front.best rest

end CommandSpec.Regex
