import CommandSpec.Utility.Rules.Token

/-!
# Searching and cutting texts

Texts are searched for regular expressions, cut at separators, and changed where an expression matches.
A separator of one character is that character, and one blank stands for any blanks.
-/

namespace CommandSpec.Utility.Rules

open CommandSpec.Regex (Pattern Match)

/-! ## Expressions -/

/-- How expressions are written. -/
def regexSyntax : RegexSyntax :=
  { extended := true, lone := .refused, intervals := false, looseClose := true, bracketEscapes := true
    letterEscapes := false }

/-- The text of an expression with characters for those that are written as letters or numbers; at most
`fuel` characters. -/
def plainRegex : (fuel : Nat) → List Char → List Char
  | 0, cs => cs
  | _, [] => []
  | _, ['\\'] => ['\\', '\\']
  | fuel + 1, '\\' :: c :: cs =>
    match escapedChar? c, readCode? (c :: cs) with
    | some x, _ => x :: plainRegex fuel cs
    | none, some (x, rest) => (if x.isAlphanum then [x] else ['\\', x]) ++ plainRegex fuel rest
    | none, none => '\\' :: c :: plainRegex fuel cs
  | fuel + 1, c :: cs => c :: plainRegex fuel cs

/-- Whether an expression has a branch or a group with nothing in it. -/
def hasGap : Regex → Bool
  | .either a b => isNothing a || isNothing b || hasGap a || hasGap b
  | .seq a b => hasGap a || hasGap b
  | .repeated r _ _ => hasGap r
  | .group _ r => isNothing r || hasGap r
  | _ => false
where
  /-- Whether an expression is empty. -/
  isNothing : Regex → Bool
    | .empty => true
    | _ => false

/-- The wording of what is wrong with an expression. -/
def regexComplaint (text : List Char) (fault : RegexFault) : String :=
  let reason := match fault with
    | .openGroup => "missing ')'"
    | .tooBig => "resource exhaustion -- regular expression too large"
    | .nothingToRepeat =>
      if ['^', '*'].isPrefixOf text || ['^', '+'].isPrefixOf text then "syntax error ^* or ^+" else "missing operand"
    | _ => "bad class -- [], [^] or ["
  "regular expression compile failed (" ++ reason ++ ")\n" ++ .ofList text

/-- The pattern that a text is, or the complaint. -/
def readPattern (text : List Char) : Except String Pattern :=
  match Pattern.ofText regexSyntax (plainRegex text.length text) with
  | .ok p => if hasGap p.expression then .error (regexComplaint text .nothingToRepeat) else .ok p
  | .error fault => .error (regexComplaint text fault)

/-! ## Cutting -/

/-- What separates parts of a text. -/
inductive Separator where
  | blanks
  /-- Nothing: every character is a part. -/
  | nothing
  | char (c : Char)
  | pattern (p : Pattern)
  deriving Inhabited

/-- The separator that a text is, or the complaint. -/
def Separator.ofText (s : String) : Except String Separator :=
  match s.toList with
  | [] => .ok .nothing
  | [' '] => .ok .blanks
  | [c] => .ok (.char c)
  | cs => (readPattern cs).map .pattern

/-- The parts of a text between some characters; the part before the rest is `soFar`, reversed. -/
def partsBetween (isSeparator : Char → Bool) : (soFar : List Char) → List Char → List (List Char)
  | soFar, [] => [soFar.reverse]
  | soFar, c :: cs =>
    if isSeparator c then soFar.reverse :: partsBetween isSeparator [] cs
    else partsBetween isSeparator (c :: soFar) cs

/-- The first match from a place on that is not empty; at most `fuel` places. -/
def solidMatch? (p : Pattern) (text : List Char) : (fuel : Nat) → (place : Nat) → Option Match
  | 0, _ => none
  | fuel + 1, place =>
    match p.search {} text place with
    | none => none
    | some m => if m.start < m.stop then some m else solidMatch? p text fuel (m.stop + 1)

/-- The parts of a text between matches from a place on; at most `fuel` parts. -/
def partsAround (p : Pattern) (text : List Char) : (fuel place : Nat) → List (List Char)
  | 0, place => [text.drop place]
  | fuel + 1, place =>
    match if text.length < place then none else solidMatch? p text (text.length + 1) place with
    | none => [text.drop place]
    | some m => (text.drop place).take (m.start - place) :: partsAround p text fuel m.stop

/-- The parts of a text. An empty text has none. -/
def Separator.cut (s : Separator) (text : List Char) : List (List Char) :=
  if text.isEmpty then []
  else
    match s with
    | .blanks => (partsBetween isBlank [] text).filter (!·.isEmpty)
    | .nothing => text.map fun c => [c]
    | .char c => partsBetween (· = c) [] text
    | .pattern p => partsAround p text (text.length + 1) 0

/-! ## Replacing -/

/-- A part of what replaces a match. -/
inductive Replacement where
  | char (c : Char)
  | whole
  deriving DecidableEq, Repr, Inhabited

/-- What a text stands for in place of a match. Backslashes count only in front of `&`: two of them are
one, and one that is left takes its meaning. How many were read is `slashes`. -/
def readReplacement : (slashes : Nat) → List Char → List Replacement
  | slashes, '\\' :: cs => readReplacement (slashes + 1) cs
  | slashes, '&' :: cs =>
    List.replicate (slashes / 2) (.char '\\') ++ (if slashes % 2 = 1 then .char '&' else .whole)
      :: readReplacement 0 cs
  | slashes, c :: cs => List.replicate slashes (.char '\\') ++ .char c :: readReplacement 0 cs
  | slashes, [] => List.replicate slashes (.char '\\')

/-- What stands in place of a match. -/
def Replacement.fill (parts : List Replacement) (found : List Char) : List Char :=
  parts.flatMap fun
    | .char c => [c]
    | .whole => found

/-- A text from a place on with matches replaced, all of them or only the first one, and how many there
were. An empty match does not count at `taken`, where the last match ended; at most `fuel` steps. -/
def replaceFrom (p : Pattern) (parts : List Replacement) (all : Bool) (text : List Char) :
    (fuel place : Nat) → (taken : Option Nat) → List Char × Nat
  | 0, place, _ => (text.drop place, 0)
  | fuel + 1, place, taken =>
    match if text.length < place then none else p.search {} text place with
    | none => (text.drop place, 0)
    | some m =>
      let before := (text.drop place).take (m.start - place)
      let found := (text.drop m.start).take (m.stop - m.start)
      if m.start = m.stop && taken = some m.start then
        match text.drop m.start with
        | [] => (before, 0)
        | c :: _ =>
          let (rest, n) := replaceFrom p parts all text fuel (m.start + 1) none
          (before ++ c :: rest, n)
      else
        let put := Replacement.fill parts found
        if !all then (before ++ put ++ text.drop m.stop, 1)
        else if m.start = m.stop then
          match text.drop m.start with
          | [] => (before ++ put, 1)
          | c :: _ =>
            let (rest, n) := replaceFrom p parts all text fuel (m.start + 1) none
            (before ++ put ++ c :: rest, n + 1)
        else
          let (rest, n) := replaceFrom p parts all text fuel m.stop (some m.stop)
          (before ++ put ++ rest, n + 1)

/-- A text with matches replaced, all of them or only the first one, and how many there were. -/
def replace (p : Pattern) (parts : List Replacement) (all : Bool) (text : List Char) : List Char × Nat :=
  replaceFrom p parts all text (2 * text.length + 2) 0 none

/-- The place of a text in another one, counted from one; zero if it is not there. -/
def placeOf (part : List Char) (text : List Char) : Nat :=
  ((List.range (text.length + 1)).find? fun i => part.isPrefixOf (text.drop i)).elim 0 (· + 1)

end CommandSpec.Utility.Rules
