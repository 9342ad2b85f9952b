import CommandSpec.Utility.Editing.Script

/-!
# Replacing matches

Matches are replaced from left to right. An empty match right after another one does not count. A
replacement can change the case of the letters in it: of all letters from a place on, or of the next
one.
-/

namespace CommandSpec.Utility.Editing

open Regex (Match LineRule)

namespace LetterCase

/-- A letter in a case. -/
def apply (c : Char) : LetterCase → Char
  | asIs => c
  | upper => c.toUpper
  | lower => c.toLower

/-- A text of which the first letter may have a case of its own. -/
def applyAll (all : LetterCase) (one? : Option LetterCase) : List Char → List Char
  | [] => []
  | c :: cs => (one?.getD all).apply c :: cs.map all.apply

end LetterCase

/-- What pieces of a replacement make of a match in a text. -/
def replacementText (text : List Char) (m : Match) :
    (all : LetterCase) → (one? : Option LetterCase) → List ReplacementPart → List Char
  | _, _, [] => []
  | _, _, .allLetters all :: parts => replacementText text m all none parts
  | all, _, .oneLetter one :: parts => replacementText text m all (some one) parts
  | all, one?, part :: parts =>
    let cs := match part with
      | .text cs => cs
      | .group n => m.textOf text n
      | _ => []
    all.applyAll one? cs ++ replacementText text m all (if cs.isEmpty then one? else none) parts

namespace Substitution

/-- A text from a place on with matches replaced, and whether there are any. `found` matches were found
before, the last of which stopped at `stop?`. At most `fuel` places are tried. -/
def applyFrom (s : Substitution) (p : LinesPattern) (text : List Char) :
    (fuel place found : Nat) → (stop? : Option Nat) → List Char × Bool
  | 0, place, _, _ => (text.drop place, false)
  | fuel + 1, place, found, stop? =>
    match p.pattern.search { multiline := p.multiline } text place with
    | none => (text.drop place, false)
    | some m =>
      let skipped := (text.drop place).take (m.start - place)
      let isEmpty := m.start = m.stop
      let passed := if isEmpty then (text.drop m.stop).take 1 else []
      let after := m.stop + passed.length
      let isOver := isEmpty && passed.isEmpty
      if isEmpty && stop? = some m.start then
        if isOver then (skipped, false)
        else
          let (rest, replaced) := s.applyFrom p text fuel after found stop?
          (skipped ++ passed ++ rest, replaced)
      else
        let counts := s.count ≤ found + 1
        let here := if counts then replacementText text m .asIs none s.replacement else m.textOf text 0
        if counts && !s.all then (skipped ++ here ++ text.drop m.stop, true)
        else if isOver then (skipped ++ here, counts)
        else
          let (rest, replaced) := s.applyFrom p text fuel after (found + 1) (some m.stop)
          (skipped ++ here ++ passed ++ rest, counts || replaced)

/-- A text with matches replaced, if there are any. -/
def replaced? (s : Substitution) (p : LinesPattern) (text : List Char) : Option (List Char) :=
  let (text, replaced) := s.applyFrom p text (text.length + 2) 0 0 none
  if replaced then some text else none

end Substitution

end CommandSpec.Utility.Editing
