import CommandSpec.Utility.Factors
import CommandSpec.Utility.Inputs
import CommandSpec.Utility.Outcome

/-!
# `tsort`

Pairs of words tell what comes before what. All words are written in an order that keeps to that. If words come
before each other in a circle, one of the pairs is passed over.
-/

namespace CommandSpec.Utility

/-- Which words come before which others. -/
structure Precedence where
  /-- The words in order. -/
  words : Array String
  /-- For every word, how many pairs still have it as the second one. -/
  counts : Array Nat
  /-- For every word, the words that come after it, the latest pair first. -/
  followers : Array (List Nat)
  /-- Whether a word was written. -/
  written : Array Bool
  deriving Inhabited

namespace Precedence

/-- Words in order, without those that are there twice. -/
def distinct (words : List String) : List String :=
  (words.mergeSort (· ≤ ·)).foldr (fun w rest => if rest.head? = some w then rest else w :: rest) []

/-- The place of a word between two places; at most `fuel` steps. -/
def placeOf (words : Array String) (w : String) : (fuel : Nat) → (low high : Nat) → Nat
  | 0, low, _ => low
  | fuel + 1, low, high =>
    if low ≥ high then low
    else
      let middle := (low + high) / 2
      if (words[middle]?).getD "" < w then placeOf words w fuel (middle + 1) high
      else placeOf words w fuel low middle

/-- What pairs of words tell. -/
def ofPairs (pairs : List (String × String)) : Precedence :=
  let words := (distinct (pairs.flatMap fun p => [p.1, p.2])).toArray
  let place (w : String) : Nat := placeOf words w 64 0 words.size
  let start : Precedence :=
    { words, counts := Array.replicate words.size 0, followers := Array.replicate words.size []
      written := Array.replicate words.size false }
  pairs.foldl (fun p (a, b) =>
    if a = b then p
    else { p with counts := p.counts.modify (place b) (· + 1), followers := p.followers.modify (place a) (place b :: ·) })
    start

/-- The word at a place. -/
def word (p : Precedence) (k : Nat) : String :=
  (p.words[k]?).getD ""

/-- How many pairs still have the word at a place as the second one. -/
def count (p : Precedence) (k : Nat) : Nat :=
  (p.counts[k]?).getD 0

/-- Go on after the words before others were written: the words that nothing comes before any more, in the
order in which that was found. -/
def release (p : Precedence) : List Nat → Precedence × List Nat
  | [] => (p, [])
  | k :: rest =>
    let p := { p with counts := p.counts.modify k (· - 1) }
    let (left, free) := p.release rest
    (left, if p.count k = 0 then k :: free else free)

/-- Write the words in a queue, and those that nothing else comes before then; at most `fuel`. -/
def drain : (fuel : Nat) → (queue : List Nat) → Precedence → List Nat × Precedence
  | 0, _, p => ([], p)
  | _ + 1, [], p => ([], p)
  | fuel + 1, k :: queue, p =>
    let p := { p with written := p.written.modify k fun _ => true }
    let (p, free) := p.release ((p.followers[k]?).getD [])
    let (order, p) := drain fuel (queue ++ free) p
    (k :: order, p)

/-- A chain of words that come before each other, from its last one back. -/
structure Chain where
  last : Option Nat := none
  /-- What a word in the chain comes before. -/
  next : Array (Option Nat)
  deriving Inhabited

/-- The places from one on along a chain up to another one; at most `fuel`. -/
def along (c : Chain) (stop : Nat) : (fuel : Nat) → Nat → List Nat
  | 0, _ => []
  | fuel + 1, k =>
    if k = stop then [k] else k :: ((c.next[k]?.join).map (along c stop fuel)).getD []

/-- Go through words and lengthen a chain by those that come before its last one, until a circle is found: the
circle with the pair that closes it, or the chain. -/
def lengthen (p : Precedence) (c : Chain) : List Nat → (List Nat × Nat × Nat) ⊕ Chain
  | [] => .inr c
  | k :: rest =>
    if p.count k = 0 then lengthen p c rest
    else
      match c.last with
      | none => lengthen p { c with last := some k } rest
      | some last =>
        if !((p.followers[k]?).getD []).contains last then lengthen p c rest
        else if ((c.next[k]?).join).isSome then .inl (along c k (p.words.size + 1) last, k, last)
        else lengthen p { last := some k, next := c.next.modify k fun _ => some last } rest

/-- A circle with the pair that closes it; at most `fuel` rounds. -/
def circle? (p : Precedence) : (fuel : Nat) → Chain → Option (List Nat × Nat × Nat)
  | 0, _ => none
  | fuel + 1, c =>
    match p.lengthen c (List.range p.words.size) with
    | .inl found => some found
    | .inr c => circle? p fuel c

/-- The precedence without the latest pair of two words. -/
def without (p : Precedence) (first second : Nat) : Precedence :=
  { p with
    counts := p.counts.modify second (· - 1)
    followers := p.followers.modify first (·.erase second) }

/-- Write all words in order, and complain about circles; at most `fuel` rounds. -/
def run (source : String) : (fuel : Nat) → (ok : Bool) → Precedence → Task Bool
  | 0, ok, _ => return ok
  | fuel + 1, ok, p => do
    let isFree (k : Nat) : Bool := p.count k = 0 && !(p.written[k]?).getD true
    let (order, p) := drain (p.words.size + 1) ((List.range p.words.size).filter isFree) p
    Task.print (String.join (order.map fun k => p.word k ++ "\n"))
    if p.written.all id then return ok
    Task.complain (source ++ ": input contains a loop:")
    match p.circle? (2 * p.words.size + 4) { next := Array.replicate p.words.size none } with
    | none => return false
    | some (circle, first, second) =>
      for k in circle do Task.complain (p.word k)
      run source fuel false (p.without first second)

/-- Words in pairs; nothing if one is left over. -/
def pairs? : List String → Option (List (String × String))
  | [] => some []
  | [_] => none
  | a :: b :: rest => (pairs? rest).map ((a, b) :: ·)

end Precedence

/-- Write words in the order that pairs of them tell: `tsort [file]`. -/
def tsort (args : List String) : Task Nat :=
  withOptions {} args fun a => do
    if let _ :: extra :: _ := a.operands then return (← misuse ("extra operand " ++ inQuotes extra) 1)
    let source := a.operands.headD "-"
    match ← readInput source with
    | .error e =>
      failWith 1 (forShell source ++ (if e = .isDirectory then ": read error: " else ": ") ++ e.wording)
    | .ok text =>
      match Precedence.pairs? (Factors.tokens text.toList) with
      | none => failWith 1 (forShell source ++ ": input contains an odd number of tokens")
      | some pairs =>
        let ok ← Precedence.run (forShell source) (pairs.length + 2) true (.ofPairs pairs)
        return if ok then 0 else 1

end CommandSpec.Utility
