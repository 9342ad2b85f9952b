/-!
# Regular expressions

A regular expression is made of characters, places, groups, alternatives and repetitions. A group is
numbered, and a reference asks for the text that a group has taken before. A repetition takes as much
as it can.
-/

namespace CommandSpec

/-- A place between two characters that an expression can ask for. -/
inductive Boundary where
  | lineStart
  | lineEnd
  | textStart
  | textEnd
  | wordStart
  | wordEnd
  /-- Where a word starts or ends. -/
  | wordEdge
  /-- Where no word starts or ends. -/
  | noWordEdge
  deriving DecidableEq, Repr, Inhabited

/-- A regular expression. -/
inductive Regex where
  | empty
  | char (accepts : Char → Bool)
  | boundary (b : Boundary)
  | seq (first second : Regex)
  /-- One of two expressions; the first one is preferred. -/
  | either (first second : Regex)
  /-- At least `least` times, and at most `most` times if that is limited. -/
  | repeated (r : Regex) (least : Nat) (most : Option Nat)
  | group (n : Nat) (r : Regex)
  | reference (n : Nat)
  deriving Inhabited

namespace Regex

/-- A function on characters with its values for bytes stored. -/
def tabulate (accepts : Char → Bool) : Char → Bool :=
  let table : Array Bool := (List.range 256).toArray.map fun n => accepts (Char.ofNat n)
  fun c => (table[c.toNat]?).getD (accepts c)

/-- Whether a character is part of a word. -/
def isWordChar (c : Char) : Bool :=
  c.isAlphanum || c = '_'

/-- Whether an expression refers to a group. -/
def hasReference : Regex → Bool
  | reference _ => true
  | seq a b => a.hasReference || b.hasReference
  | either a b => a.hasReference || b.hasReference
  | repeated r _ _ => r.hasReference
  | group _ r => r.hasReference
  | _ => false

/-- How many groups an expression has. -/
def groupCount : Regex → Nat
  | seq a b => a.groupCount + b.groupCount
  | either a b => a.groupCount + b.groupCount
  | repeated r _ _ => r.groupCount
  | group _ r => r.groupCount + 1
  | _ => 0

/-- How places are told apart. -/
structure LineRule where
  /-- Whether lines in the text have starts and ends of their own. -/
  multiline : Bool := false
  /-- Whether the text begins where a line does. -/
  startsLine : Bool := true
  /-- Whether the text ends where a line does. -/
  endsLine : Bool := true
  deriving DecidableEq, Repr, Inhabited

namespace LineRule

/-- Whether a place is between the characters before and after it. -/
def holds (rule : LineRule) (b : Boundary) (before after : Option Char) : Bool :=
  let inWord (c : Option Char) : Bool := c.any isWordChar
  match b with
  | .lineStart => if before.isNone then rule.startsLine else rule.multiline && before = some '\n'
  | .lineEnd => if after.isNone then rule.endsLine else rule.multiline && after = some '\n'
  | .textStart => before.isNone
  | .textEnd => after.isNone
  | .wordStart => !inWord before && inWord after
  | .wordEnd => inWord before && !inWord after
  | .wordEdge => inWord before != inWord after
  | .noWordEdge => inWord before == inWord after

end LineRule

/-- A match: where it starts and ends, and which parts of it the groups have taken. -/
structure Match where
  start : Nat
  stop : Nat
  groups : List (Nat × Nat × Nat) := []
  deriving DecidableEq, Repr, Inhabited

namespace Match

/-- The part that a group has taken; the group zero is the whole match. -/
def group? (m : Match) (n : Nat) : Option (Nat × Nat) :=
  if n = 0 then some (m.start, m.stop) else m.groups.lookup n

/-- The part of a text that a group has taken, empty if it has taken none. -/
def textOf (m : Match) (text : List Char) (n : Nat) : List Char :=
  match m.group? n with
  | some (start, stop) => (text.drop start).take (stop - start)
  | none => []

end Match

end Regex

end CommandSpec
