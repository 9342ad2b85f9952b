import CommandSpec.Shell.Pattern

/-!
# Fields

Expanding a word yields pieces. Literal and quoted pieces go into a field as they are; what an
unquoted expansion yields is split at separators; and a boundary, which comes from a quoted list of
arguments, always ends a field. The characters of a field keep the mark whether they were quoted,
which decides later what is matched against file names.
-/

namespace CommandSpec.Shell

/-- The character, which no argument has, that keeps the fields of a value apart. -/
def fieldEnd : Char := '\x00'

/-- A part of what a word expands to. -/
inductive Piece where
  /-- Text that is not split. -/
  | text (quoted : Bool) (s : String)
  /-- Text that is split at separators. -/
  | split (s : String)
  /-- The end of a field. -/
  | boundary
  deriving DecidableEq, Repr, Inhabited

/-- Fields being put together. -/
structure Assembly where
  /-- The fields that are complete, the latest first. -/
  complete : List (List Marked) := []
  /-- The characters of the field that is going on, the latest first. -/
  current : Option (List Marked) := none
  /-- Whether blanks have just ended a field, so that one more separator belongs to them. -/
  afterBlank : Bool := false
  deriving Inhabited

namespace Assembly

/-- Complete the current field, if there is one. -/
def close (a : Assembly) : Assembly :=
  match a.current with
  | some cs => { a with complete := cs.reverse :: a.complete, current := none }
  | none => a

/-- Add a character to the current field. -/
def push (a : Assembly) (c : Marked) : Assembly :=
  { a with current := some (c :: a.current.getD []), afterBlank := false }

/-- Add a character of a text that is split. A blank separator ends a field; any other one ends a
field too, or makes an empty one when no field is going on. -/
def splitAt (separators : List Char) (a : Assembly) (c : Char) : Assembly :=
  if c ≠ fieldEnd && !separators.contains c then a.push (c, false)
  else if c = ' ' || c = '\t' || c = '\n' || c = fieldEnd then
    if a.current.isSome then { a.close with afterBlank := true } else a
  else if a.current.isSome then a.close
  else if a.afterBlank then { a with afterBlank := false }
  else { a with complete := [] :: a.complete }

/-- Add a piece. -/
def add (separators : List Char) (a : Assembly) : Piece → Assembly
  | .text quoted s =>
    let a := if quoted then { a with current := some (a.current.getD []) } else a
    s.toList.foldl (fun a c => a.push (c, quoted)) a
  | .split s => s.toList.foldl (splitAt separators) { a with afterBlank := false }
  | .boundary => a.close

end Assembly

/-- The fields that pieces make. -/
def fieldsOf (separators : List Char) (pieces : List Piece) : List (List Marked) :=
  (pieces.foldl (Assembly.add separators) {}).close.complete.reverse

/-- The text that pieces make when nothing is split. -/
def textOf (pieces : List Piece) : String :=
  String.join (pieces.map fun
    | .text _ s => s
    | .split s => s
    | .boundary => " ")

/-- The pattern that pieces make: quoted characters stand for themselves. -/
def patternOf (pieces : List Piece) : List PatternItem :=
  readPattern (pieces.flatMap fun
    | .text quoted s => s.toList.map fun c => (c, quoted)
    | .split s => s.toList.map fun c => (c, false)
    | .boundary => [(' ', true)])

/-- A value without the part at one end that a pattern matches. A pattern looks at one field of the
value; it is tried at the places of the first field when the part begins with the value's beginning
and should be short, or ends with its end and should be long. -/
def trimValue (fromEnd longest : Bool) (pattern : List PatternItem) (value : List Char) :
    List Char :=
  let field (cs : List Char) : List Char := cs.takeWhile (· ≠ fieldEnd)
  let places :=
    if fromEnd = longest then List.range ((field value).length + 1)
    else (List.range (value.length + 1)).reverse
  let cut? := places.find? fun i =>
    matchesPattern pattern (field (if fromEnd then value.drop i else value.take i))
  match cut? with
  | some i => if fromEnd then value.take i else value.drop i
  | none => value

/-- A text without the newlines at its end. -/
def dropNewlines (s : String) : String :=
  .ofList (s.toList.reverse.dropWhile (· = '\n')).reverse

/-! ## Fields of a line -/

/-- A line as `read` takes it: a backslash protects the next character, and one before a newline
joins lines; `raw` turns this off. The answer also tells whether the line goes on. -/
def readMarks (raw : Bool) : List Char → List Marked × Bool
  | [] => ([], false)
  | ['\\'] => (if raw then [('\\', false)] else [], false)
  | '\\' :: c :: cs =>
    if raw then
      let (rest, more) := readMarks raw (c :: cs)
      (('\\', false) :: rest, more)
    else if c = '\n' then ([], true)
    else
      let (rest, more) := readMarks raw cs
      ((c, true) :: rest, more)
  | '\n' :: _ => ([], false)
  | c :: cs =>
    let (rest, more) := readMarks raw cs
    ((c, false) :: rest, more)

/-- A line being split among variables. -/
structure LineSplit where
  /-- The fields that are complete, the latest first. -/
  complete : List (List Marked) := []
  /-- The characters of the field that is going on, the latest first. -/
  current : List Marked := []
  /-- How many fields are still to be told apart; the last of them takes all that is left. -/
  wanted : Nat
  /-- Whether a blank has just ended a field, so that one more separator belongs to it. -/
  afterBlank : Bool := false
  /-- In the last field, where the separators begin that go if nothing else comes. -/
  cut : Option Nat := none
  deriving Inhabited

namespace LineSplit

/-- Add a character. The last field keeps its separators, except for blanks at its end and for one
other separator that nothing follows. A protected character separates nothing. -/
def add (separators : List Char) (l : LineSplit) (c : Marked) : LineSplit :=
  let separates := separators.contains c.1
  let isBlank := separates && (c.1 = ' ' || c.1 = '\t' || c.1 = '\n')
  let longer : LineSplit := { l with current := c :: l.current }
  if c.2 then { longer with afterBlank := false }
  else if l.wanted = 0 then
    if isBlank then { longer with cut := l.cut.or (some l.current.length) }
    else { longer with cut := if separates && l.afterBlank then l.cut else none, afterBlank := false }
  else if l.afterBlank then
    if isBlank then { l with current := [] }
    else { l with current := if separates then [] else [c], afterBlank := false }
  else if !separates then longer
  else if isBlank && l.current.isEmpty then l
  else if l.wanted = 1 then
    { longer with wanted := 0, cut := some l.current.length, afterBlank := isBlank }
  else
    { l with complete := l.current.reverse :: l.complete, current := [], wanted := l.wanted - 1
             afterBlank := isBlank }

/-- The fields at the end of the line. -/
def fields (l : LineSplit) : List (List Marked) :=
  let last := (l.cut.elim l.current.reverse l.current.reverse.take)
  l.complete.reverse ++ [last]

end LineSplit

/-- Split a line among `n` variables; the last one takes all that is left, and some may get nothing. -/
def splitAmong (separators : List Char) (n : Nat) (cs : List Marked) : List String :=
  let fields := (cs.foldl (LineSplit.add separators) { wanted := n }).fields
  (fields.map unmarked ++ List.replicate n "").take n

end CommandSpec.Shell
