import CommandSpec.Regex.Bracket
import CommandSpec.Text.Integer

/-!
# Reading regular expressions

Basic expressions write groups, intervals and alternatives with backslashes, extended ones without.
The programs that use expressions differ in what they make of operators where there is nothing to
repeat, and of brackets and intervals that are not closed.
-/

namespace CommandSpec

/-- What becomes of a repetition where there is nothing to repeat. -/
inductive LoneRepetition where
  | literal
  | ignored
  | refused
  deriving DecidableEq, Repr, Inhabited

/-- How regular expressions are written. -/
structure RegexSyntax where
  /-- Whether groups, intervals and alternatives stand without backslashes. -/
  extended : Bool := false
  /-- Whether `+` and `?` stand without backslashes. -/
  plainSigns : Bool := extended
  lone : LoneRepetition := .literal
  /-- Whether something repeated may not be repeated again. -/
  repeatsOnce : Bool := false
  /-- Whether there are intervals. -/
  intervals : Bool := true
  /-- Whether an interval that is none stands for itself. -/
  looseIntervals : Bool := false
  /-- Whether a parenthesis that closes nothing stands for itself. -/
  looseClose : Bool := false
  /-- Whether a newline separates alternatives. -/
  newlineSeparates : Bool := false
  /-- Whether a backslash in brackets takes the meaning of what follows it. -/
  bracketEscapes : Bool := false
  /-- Whether a backslash before a letter or a digit may mean something else than that. -/
  letterEscapes : Bool := true
  ignoresCase : Bool := false
  deriving DecidableEq, Repr, Inhabited

namespace RegexSyntax

/-- Expressions as `sed` and `expr` read them. -/
def basic : RegexSyntax :=
  { repeatsOnce := true }

/-- Extended expressions as `sed` reads them. -/
def strictExtended : RegexSyntax :=
  { extended := true, lone := .refused }

/-- Expressions as `grep` reads them. -/
def basicLines : RegexSyntax :=
  { newlineSeparates := true }

/-- Extended expressions as `grep` reads them. -/
def extendedLines : RegexSyntax :=
  { extended := true, lone := .ignored, looseIntervals := true, looseClose := true
    newlineSeparates := true }

end RegexSyntax

namespace Regex

/-- A repetition. -/
structure Repetition where
  least : Nat
  most : Option Nat
  deriving DecidableEq, Repr, Inhabited

/-- A piece of the text of an expression. -/
inductive RegexToken where
  | finish
  | char (c : Char)
  | any
  | bracket
  | opening
  | closing
  | bar
  | repetition (c : Char) (r : Repetition)
  /-- The start of an interval; the text shows what it is if it is none. -/
  | interval
  | place (b : Boundary)
  | named (accepts : Char → Bool)
  | reference (n : Nat)
  /-- A backslash with nothing after it. -/
  | backslash

/-- What a backslash before a letter or a sign means, if it means something. -/
def backslashMeaning? (c : Char) : Option RegexToken :=
  let isSpace (c : Char) : Bool := c = ' ' || ('\t' ≤ c && c ≤ '\r')
  match c with
  | '<' => some (.place .wordStart)
  | '>' => some (.place .wordEnd)
  | 'b' => some (.place .wordEdge)
  | 'B' => some (.place .noWordEdge)
  | '\x60' => some (.place .textStart)
  | '\x27' => some (.place .textEnd)
  | 'w' => some (.named isWordChar)
  | 'W' => some (.named (!isWordChar ·))
  | 's' => some (.named isSpace)
  | 'S' => some (.named (!isSpace ·))
  | c => if '1' ≤ c && c ≤ '9' then some (.reference (c.toNat - '0'.toNat)) else none

/-- What an operator means, if it is one. -/
def operator? : Char → Option RegexToken
  | '(' => some .opening
  | ')' => some .closing
  | '|' => some .bar
  | '\x7b' => some .interval
  | _ => none

/-- What a sign of repetition means, if it is one. -/
def sign? : Char → Option RegexToken
  | '+' => some (.repetition '+' ⟨1, none⟩)
  | '?' => some (.repetition '?' ⟨0, some 1⟩)
  | _ => none

/-- The next token and the text after it. In a basic expression `^` is a place only where `atStart`
tells that a branch begins, and `$` only where one ends. -/
def readToken (s : RegexSyntax) (atStart : Bool) : List Char → RegexToken × List Char
  | [] => (.finish, [])
  | ['\\'] => (.backslash, [])
  | '\\' :: c :: rest =>
    let operator := if s.extended || (c = '\x7b' && !s.intervals) then none else operator? c
    let sign := if s.plainSigns then none else sign? c
    let meaning := if s.letterEscapes then backslashMeaning? c else none
    (((operator.or sign).or meaning).getD (.char c), rest)
  | '*' :: rest => (.repetition '*' ⟨0, none⟩, rest)
  | '.' :: rest => (.any, rest)
  | '[' :: rest => (.bracket, rest)
  | '^' :: rest => (if s.extended || atStart then .place .lineStart else .char '^', rest)
  | '$' :: rest =>
    let endsBranch := match rest with
      | [] => true
      | ['\\'] => false
      | '\\' :: c :: _ => c = ')' || c = '|'
      | c :: _ => s.newlineSeparates && c = '\n'
    (if s.extended || endsBranch then .place .lineEnd else .char '$', rest)
  | c :: rest =>
    let operator := if s.extended && (c ≠ '\x7b' || s.intervals) then operator? c else none
    let sign := if s.plainSigns then sign? c else none
    let bar := if s.newlineSeparates && c = '\n' then some RegexToken.bar else none
    (((operator.or sign).or bar).getD (.char c), rest)

/-- What is read of an expression, and what was found out about it. -/
structure ReadState where
  rest : List Char
  /-- Whether a branch begins here. -/
  atStart : Bool := true
  /-- How many groups were opened. -/
  opened : Nat := 0
  /-- The groups that were closed. -/
  closed : List Nat := []
  deriving Inhabited

/-- The greatest number in an interval. -/
def maxRepetition : Nat := 32767

/-- An interval after its opening brace, and the text after it. -/
def readInterval (s : RegexSyntax) (cs : List Char) : Except RegexFault (Repetition × List Char) := do
  let number (cs : List Char) : Option Nat × List Char :=
    let digits := cs.takeWhile Char.isDigit
    (if digits.isEmpty then none else some (Text.numberIn 10 digits), cs.drop digits.length)
  let (least?, rest) := number cs
  let (least, most, rest) ← match least?, rest with
    | none, ',' :: rest =>
      let (most, rest) := number rest
      pure (0, most, rest)
    | some n, ',' :: rest =>
      let (most, rest) := number rest
      pure (n, most, rest)
    | some n, rest => pure (n, some n, rest)
    | none, [] => throw .openInterval
    | none, _ => throw .badInterval
  let closing := if s.extended then ['\x7d'] else ['\\', '\x7d']
  if !closing.isPrefixOf rest then throw (if rest.isEmpty then .openInterval else .badInterval)
  return (⟨least, most⟩, rest.drop closing.length)

/-- An interval that may be used. -/
def checkInterval (r : Repetition) : Except RegexFault Repetition := do
  if r.most.any (· < r.least) then throw .badInterval
  if maxRepetition < r.most.getD r.least then throw .tooBig
  return r

/-- The repetitions that follow an expression, and the text after them; at most `fuel`. -/
def readRepetitions (s : RegexSyntax) : (fuel : Nat) → Regex → List Char → Except RegexFault (Regex × List Char)
  | 0, r, cs => .ok (r, cs)
  | fuel + 1, r, cs => do
    let go (n : Repetition) (rest : List Char) : Except RegexFault (Regex × List Char) := do
      let again := match (readToken s false rest).1 with
        | .repetition '*' _ => true
        | .interval => true
        | _ => false
      if s.repeatsOnce && again then throw .nothingToRepeat
      readRepetitions s fuel (.repeated r n.least n.most) rest
    match readToken s false cs with
    | (.repetition _ n, rest) => go n rest
    | (.interval, rest) =>
      match readInterval s rest with
      | .ok (n, rest) => go (← checkInterval n) rest
      | .error e => if s.looseIntervals then return (r, cs) else throw e
    | _ => return (r, cs)

/-- A character as an expression. -/
def literal (s : RegexSyntax) (c : Char) : Regex :=
  if s.ignoresCase && c.toLower ≠ c.toUpper then
    .char fun x => x.toLower = c.toLower
  else .char (· = c)

mutual

/-- One expression with its repetitions. -/
def readOne (s : RegexSyntax) : (fuel : Nat) → (depth : Nat) → ReadState → Except RegexFault (Regex × ReadState)
  | 0, _, _ => .error .tooBig
  | fuel + 1, depth, st => do
    let (token, rest) := readToken s st.atStart st.rest
    let finish (r : Regex) (st : ReadState) : Except RegexFault (Regex × ReadState) := do
      let (r, rest) ← readRepetitions s (st.rest.length + 1) r st.rest
      return (r, { st with rest, atStart := false })
    match token with
    | .finish => return (.empty, st)
    | .bar => return (.empty, st)
    | .backslash => throw .trailingBackslash
    | .char c => finish (literal s c) { st with rest }
    | .any => finish (.char fun _ => true) { st with rest }
    | .named f => finish (.char f) { st with rest }
    | .place b => return (.boundary b, { st with rest, atStart := false })
    | .bracket =>
      let (accepts, rest) ← readSet s.bracketEscapes s.ignoresCase rest
      finish (.char accepts) { st with rest }
    | .reference n =>
      if !st.closed.contains n then throw .badReference
      finish (.reference n) { st with rest }
    | .opening =>
      let n := st.opened + 1
      let (r, st) ← readBranches s fuel (depth + 1) { st with rest, atStart := true, opened := n }
      match readToken s false st.rest with
      | (.closing, rest) => finish (.group n r) { st with rest, closed := n :: st.closed }
      | _ => throw .openGroup
    | .closing =>
      if s.looseClose then finish (literal s ')') { st with rest } else throw .strayClose
    | .repetition c _ =>
      match s.lone with
      | .refused => throw .nothingToRepeat
      | .ignored => finish .empty { st with rest }
      | .literal => finish (literal s c) { st with rest }
    | .interval =>
      if s.repeatsOnce then throw .nothingToRepeat
      match s.lone, readInterval s rest with
      | .refused, _ => throw .nothingToRepeat
      | .ignored, .ok (_, rest) => finish .empty { st with rest }
      | _, _ => finish (literal s '\x7b') { st with rest }

/-- A branch: expressions one after the other. -/
def readBranch (s : RegexSyntax) : (fuel : Nat) → (depth : Nat) → ReadState → Except RegexFault (Regex × ReadState)
  | 0, _, _ => .error .tooBig
  | fuel + 1, depth, st => do
    match readToken s st.atStart st.rest with
    | (.finish, _) => return (.empty, st)
    | (.bar, _) => return (.empty, st)
    | (.closing, rest) =>
      if depth > 0 then return (.empty, st)
      if !s.looseClose then throw .strayClose
      let (r, st) ← readBranch s fuel depth { st with rest, atStart := false }
      return (.seq (literal s ')') r, st)
    | _ =>
      let (first, st) ← readOne s fuel depth st
      let (others, st) ← readBranch s fuel depth st
      return (match others with
        | .empty => first
        | others => .seq first others, st)

/-- Branches with bars between them. A branch can refer only to groups that were closed in it or before
the first branch. -/
def readBranches (s : RegexSyntax) : (fuel : Nat) → (depth : Nat) → ReadState → Except RegexFault (Regex × ReadState)
  | 0, _, _ => .error .tooBig
  | fuel + 1, depth, st => do
    let (first, next) ← readBranch s fuel depth st
    match readToken s next.atStart next.rest with
    | (.bar, rest) =>
      let (others, last) ← readBranches s fuel depth { next with rest, atStart := true, closed := st.closed }
      return (.either first others, { last with closed := last.closed ++ next.closed })
    | _ => return (first, next)

end

/-- The first repetition in an extended expression that has nothing to repeat, as it is shown in a
warning. -/
def loneRepetition? (s : RegexSyntax) (text : List Char) : Option String :=
  go s (text.length + 1) true text
where
  /-- The same from a place on; at most `fuel` tokens. -/
  go (s : RegexSyntax) : (fuel : Nat) → (atStart : Bool) → List Char → Option String
    | 0, _, _ => none
    | fuel + 1, atStart, cs =>
      match readToken s atStart cs with
      | (.finish, _) => none
      | (.backslash, _) => none
      | (.opening, rest) => go s fuel true rest
      | (.bar, rest) => go s fuel true rest
      | (.place .lineStart, rest) => go s fuel true rest
      | (.repetition c _, rest) => if atStart then some c.toString else go s fuel false rest
      | (.interval, rest) =>
        if atStart && (readInterval s rest).toOption.isSome then some "\x7b...\x7d" else go s fuel false rest
      | (.bracket, rest) =>
        match readSet s.bracketEscapes s.ignoresCase rest with
        | .ok (_, rest) => go s fuel false rest
        | .error _ => none
      | (_, rest) => go s fuel false rest

/-- The regular expression that a text is. -/
def ofText (s : RegexSyntax) (text : List Char) : Except RegexFault Regex := do
  let (r, _) ← readBranches s (3 * text.length + 4) 0 { rest := text }
  return r

end Regex

end CommandSpec
