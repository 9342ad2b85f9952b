import CommandSpec.Regex.Automaton
import CommandSpec.Regex.Reading

/-!
# Searching

A pattern is an expression that is ready to be searched for. An expression without references is run
as an automaton. One with references is matched by trying every way, in the order in which they are
preferred, and the first of the longest matches is taken.
-/

namespace CommandSpec.Regex

/-! ## Trying every way -/

/-- What is still to be matched. -/
inductive Goal where
  | part (r : Regex)
  /-- Note the end of a group that began at a place. -/
  | close (group start : Nat)
  /-- Go on only if the place has changed. -/
  | movedFrom (place : Nat)

/-- How far a way has come. -/
structure Way where
  here : Nat
  before : Option Char
  rest : List Char
  groups : List (Nat × Nat × Nat) := []
  deriving Inhabited

/-- The way after some characters. -/
def Way.pass (w : Way) (n : Nat) : Way :=
  { w with here := w.here + n, before := if n = 0 then w.before else w.rest[n - 1]?, rest := w.rest.drop n }

/-- The longest match among all ways to reach some goals, if it is longer than the best one so far, and
how many steps may still be taken. -/
def explore (text : List Char) (rule : LineRule) (ignoresCase : Bool) (start : Nat) :
    (fuel : Nat) → List Goal → Way → (best : Option Match) → Option Match
  | 0, _, _, best => best
  | _ + 1, [], w, best =>
    if best.all (·.stop < w.here) then some ⟨start, w.here, w.groups⟩ else best
  | fuel + 1, goal :: goals, w, best =>
    let go := explore text rule ignoresCase start fuel
    match goal with
    | .close n begun => go goals { w with groups := (n, begun, w.here) :: w.groups.filter (·.1 ≠ n) } best
    | .movedFrom place => if w.here = place then best else go goals w best
    | .part r =>
      match r with
      | .empty => go goals w best
      | .char f =>
        match w.rest with
        | c :: _ => if f c then go goals (w.pass 1) best else best
        | [] => best
      | .boundary b => if rule.holds b w.before w.rest.head? then go goals w best else best
      | .seq a b => go (.part a :: .part b :: goals) w best
      | .either a b => go (.part b :: goals) w (go (.part a :: goals) w best)
      | .group n r => go (.part r :: .close n w.here :: goals) w best
      | .reference n =>
        match w.groups.lookup n with
        | none => best
        | some (begun, ended) =>
          let fold (cs : List Char) : List Char := if ignoresCase then cs.map Char.toLower else cs
          let taken := (text.drop begun).take (ended - begun)
          if (fold taken).isPrefixOf (fold (w.rest.take taken.length)) then go goals (w.pass taken.length) best
          else best
      | .repeated r (least + 1) most =>
        go (.part r :: .part (.repeated r least (most.map (· - 1))) :: goals) w best
      | .repeated r 0 most =>
        if most = some 0 then go goals w best
        else
          let more : Goal := .part (.repeated r 0 (most.map (· - 1)))
          go goals w (go (.part r :: .movedFrom w.here :: more :: goals) w best)

/-- How many steps in a row one way may have. -/
def exploreFuel (text : List Char) : Nat :=
  400 * (text.length + 50)

/-- The first place from which a way leads to a match, from a way on. -/
def exploreFrom (text : List Char) (rule : LineRule) (ignoresCase anchored : Bool) (r : Regex) :
    (here : Nat) → (before : Option Char) → List Char → Option Match
  | here, before, rest =>
    match explore text rule ignoresCase here (exploreFuel text) [.part r] ⟨here, before, rest, []⟩ none with
    | some found => some found
    | none =>
      match rest with
      | [] => none
      | c :: rest => if anchored then none else exploreFrom text rule ignoresCase anchored r (here + 1) (some c) rest

/-! ## Patterns -/

/-- An expression that is ready to be searched for. -/
structure Pattern where
  expression : Regex
  code : Array Instruction
  hasReference : Bool
  groupCount : Nat
  ignoresCase : Bool
  deriving Inhabited

/-- An expression made ready. -/
def Pattern.ofRegex (ignoresCase : Bool) (r : Regex) : Pattern :=
  ⟨r, r.code.toArray, r.hasReference, r.groupCount, ignoresCase⟩

/-- The pattern that a text is. -/
def Pattern.ofText (s : RegexSyntax) (text : List Char) : Except RegexFault Pattern := do
  return .ofRegex s.ignoresCase (← Regex.ofText s text)

namespace Pattern

/-- The longest of the matches that start first in a text from a place on, or of those that start at the
place if that is asked for. What is before the place is seen but not matched. -/
def find (p : Pattern) (rule : LineRule) (anchored : Bool) (text : List Char) (place : Nat) : Option Match :=
  let before := if place = 0 then none else text[place - 1]?
  let rest := text.drop place
  if p.hasReference then exploreFrom text rule p.ignoresCase anchored p.expression place before rest
  else
    (scan p.code rule (if anchored then some place else none) place before [] none rest).map
      fun (t, stop) => t.found stop

/-- The longest of the matches that start first in a text from a place on. -/
def search (p : Pattern) (rule : LineRule) (text : List Char) (place : Nat) : Option Match :=
  p.find rule false text place

/-- The longest match at a place. -/
def matchAt (p : Pattern) (rule : LineRule) (text : List Char) (place : Nat) : Option Match :=
  p.find rule true text place

/-- Whether there is a match in a text. -/
def occursIn (p : Pattern) (rule : LineRule) (text : List Char) : Bool :=
  (p.search rule text 0).isSome

end Pattern

end CommandSpec.Regex
