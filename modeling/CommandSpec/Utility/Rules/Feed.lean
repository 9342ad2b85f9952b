import CommandSpec.Machine.Task
import CommandSpec.Utility.Rules.Search

/-!
# Records from an input

An input is cut into records at a character, at empty lines, or where an expression matches. A match
that reaches the end of what was read may still become longer, so more is read before it counts.
-/

namespace CommandSpec.Utility.Rules

open CommandSpec.Regex (Pattern)

/-- Where records end. -/
inductive RecordRule where
  | char (c : Char)
  | paragraphs
  | pattern (p : Pattern)
  deriving Inhabited

/-- The rule for records that a separator is. -/
def RecordRule.ofSeparator : Separator → RecordRule
  | .blanks => char ' '
  | .nothing => paragraphs
  | .char c => char c
  | .pattern p => pattern p

/-- What can be taken of a text that was read. -/
inductive Taken where
  | record (text rest : List Char)
  /-- More has to be read first. -/
  | more (rest : List Char)
  | nothing
  deriving Inhabited

/-- The text up to an empty line, and the text after it. -/
def paragraph? : (soFar : List Char) → List Char → Option (List Char × List Char)
  | _, [] => none
  | soFar, '\n' :: '\n' :: rest => some (soFar.reverse, rest)
  | soFar, c :: rest => paragraph? (c :: soFar) rest

/-- The text up to a character, and the text after it. -/
def upToChar? (stop : Char) : (soFar : List Char) → List Char → Option (List Char × List Char)
  | _, [] => none
  | soFar, c :: rest => if c = stop then some (soFar.reverse, rest) else upToChar? stop (c :: soFar) rest

/-- What can be taken of a text; `ended` tells whether it was read to its end. -/
def RecordRule.take (rule : RecordRule) (ended : Bool) (text : List Char) : Taken :=
  let last (text : List Char) : Taken :=
    if !ended then .more text else if text.isEmpty then .nothing else .record text []
  match rule with
  | char c =>
    match upToChar? c [] text with
    | some (record, rest) => .record record rest
    | none => last text
  | paragraphs =>
    let text := text.dropWhile (· = '\n')
    match paragraph? [] text with
    | some (record, rest) => .record record rest
    | none => last (if ended && text.getLast? = some '\n' then text.dropLast else text)
  | pattern p =>
    match solidMatch? p text (text.length + 1) 0 with
    | some m =>
      if m.stop < text.length || ended then .record (text.take m.start) (text.drop m.stop) else .more text
    | none => last text

/-- An input that records are taken from. -/
structure Feed where
  fd : Nat
  /-- What was read but not taken. -/
  rest : List Char := []
  ended : Bool := false
  deriving Inhabited

namespace Feed

/-- How much is read at once. -/
def chunkSize : Nat := 4096

/-- The next record, if there is one, and the input after it; it is read from at most `fuel` times. -/
def next (rule : RecordRule) : (fuel : Nat) → Feed → Task (Except OsError (Option String × Feed))
  | 0, f => return .ok (none, f)
  | fuel + 1, f => do
    match rule.take f.ended f.rest with
    | .record text rest => return .ok (some (.ofList text), { f with rest })
    | .nothing => return .ok (none, { f with rest := [] })
    | .more rest =>
      match ← Task.readChunk f.fd chunkSize with
      | .error e => return .error e
      | .ok chunk => next rule fuel { f with rest := rest ++ chunk.toList, ended := chunk = "" }

end Feed

end CommandSpec.Utility.Rules
