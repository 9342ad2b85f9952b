import CommandSpec.Regex.Search
import CommandSpec.Text.Integer

/-!
# Matches in a line

Several patterns are searched for at once: of their matches the one counts that starts first, and of
those that start there the longest. A match may have to be a whole line, or to have no part of a word
next to it; then shorter matches at the same place are tried too.
-/

namespace CommandSpec.Utility

open Regex (Match Pattern LineRule)

/-- What counts as a match. -/
structure LinePattern where
  patterns : List Pattern := []
  /-- Whether a match is a word, or several. -/
  words : Bool := false
  /-- Whether a match is a whole line. -/
  whole : Bool := false
  deriving Inhabited

namespace LinePattern

/-- The better one of two matches. -/
def better : Option Match → Option Match → Option Match
  | none, m => m
  | m, none => m
  | some a, some b =>
    if b.start < a.start || (b.start = a.start && a.stop < b.stop) then some b else some a

/-- The first of the longest matches in a line from a place on. -/
def first (p : LinePattern) (line : List Char) (place : Nat) : Option Match :=
  p.patterns.foldl (fun best pattern => better best (pattern.search {} line place)) none

/-- The longest match that starts at a place and ends before another one. -/
def shorter (p : LinePattern) (line : List Char) (place stop : Nat) : Option Match :=
  let cut := line.take stop
  p.patterns.foldl (fun best pattern => better best (pattern.matchAt { endsLine := false } cut place)) none

/-- Whether no part of a word is next to a match. -/
def standsAlone (text : List Char) (m : Match) : Bool :=
  let isWord (c : Option Char) : Bool := c.any Regex.isWordChar
  !(m.start > 0 && isWord text[m.start - 1]?) && !isWord text[m.stop]?

/-- The match itself, or the longest shorter one at its place, that stands alone; at most `fuel` are
tried. -/
def trimmed (p : LinePattern) (line : List Char) : (fuel : Nat) → Match → Option Match
  | 0, _ => none
  | fuel + 1, m =>
    if standsAlone line m then some m
    else if m.stop = m.start then none
    else
      match p.shorter line m.start (m.stop - 1) with
      | some m => if m.stop = m.start then none else p.trimmed line fuel m
      | none => none

/-- The first match from a place on that stands alone; at most `fuel` places are tried. -/
def firstWord (p : LinePattern) (line : List Char) : (fuel place : Nat) → Option Match
  | 0, _ => none
  | fuel + 1, place =>
    match p.first line place with
    | none => none
    | some m => (p.trimmed line (line.length + 2) m).or
        (if line.length ≤ m.start then none else p.firstWord line fuel (m.start + 1))

/-- The first match in a line from a place on. -/
def find (p : LinePattern) (line : List Char) (place : Nat) : Option Match :=
  if p.whole then (p.first line place).filter fun m => m.start = 0 && m.stop = line.length
  else if p.words then p.firstWord line (line.length + 2) place
  else p.first line place

/-- The matches in a line that are not empty; at most `fuel` places are tried. -/
def findAll (p : LinePattern) (line : List Char) : (fuel place : Nat) → List Match
  | 0, _ => []
  | fuel + 1, place =>
    match p.find line place with
    | none => []
    | some m =>
      if m.stop = m.start then p.findAll line fuel (m.start + 1) else m :: p.findAll line fuel m.stop

end LinePattern

end CommandSpec.Utility
