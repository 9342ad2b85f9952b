import CommandSpec.Text.Integer
import CommandSpec.Utility.Editing.Script

/-!
# Reading scripts

A script comes in chunks: arguments and files. A command can start in one chunk and end in another one
if it is a text whose line ends with a backslash, or a block. What is wrong is told with the place up
to which the chunk was read.
-/

namespace CommandSpec.Utility.Editing

/-- What can be wrong with a script. -/
inductive ScriptFault where
  | extraCharacters
  | unknownCommand (c : Char)
  | missingCommand
  | unexpectedComma
  | stepFirst
  | lineZero
  | manyNegations
  | openAddress
  | openBlock
  | strayBlockEnd
  | blockEndAddress
  | noLabel
  | labelAddress
  | commentAddress
  | noText
  | oneAddress
  | noFile
  | openSubstitution
  | openTranslation
  | unknownFlag
  | twoPrints
  | twoAlls
  | twoCounts
  | zeroCount
  | badReference (n : Nat)
  | lengths
  | tooOld
  | noPattern
  | flagsOfNothing
  | disabled
  | regex (fault : RegexFault)
  deriving DecidableEq, Repr

/-- The wording of what is wrong. -/
def ScriptFault.message : ScriptFault → String
  | extraCharacters => "extra characters after command"
  | unknownCommand c => "unknown command: \x60" ++ c.toString ++ "'"
  | missingCommand => "missing command"
  | unexpectedComma => "unexpected \x60,'"
  | stepFirst => "invalid usage of +N or ~N as first address"
  | lineZero => "invalid usage of line address 0"
  | manyNegations => "multiple \x60!'s"
  | openAddress => "unterminated address regex"
  | openBlock => "unmatched \x60\x7b'"
  | strayBlockEnd => "unexpected \x60\x7d'"
  | blockEndAddress => "\x7d doesn't want any addresses"
  | noLabel => "\":\" lacks a label"
  | labelAddress => ": doesn't want any addresses"
  | commentAddress => "comments don't accept any addresses"
  | noText => "expected \\ after \x60a', \x60c' or \x60i'"
  | oneAddress => "command only uses one address"
  | noFile => "missing filename in r/R/w/W commands"
  | openSubstitution => "unterminated \x60s' command"
  | openTranslation => "unterminated \x60y' command"
  | unknownFlag => "unknown option to \x60s'"
  | twoPrints => "multiple \x60p' options to \x60s' command"
  | twoAlls => "multiple \x60g' options to \x60s' command"
  | twoCounts => "multiple number options to \x60s' command"
  | zeroCount => "number option to \x60s' command may not be zero"
  | badReference n => "invalid reference \\" ++ toString n ++ " on \x60s' command's RHS"
  | lengths => "strings for \x60y' command are different lengths"
  | tooOld => "expected newer version of sed"
  | noPattern => "no previous regular expression"
  | flagsOfNothing => "cannot specify modifiers on empty regexp"
  | disabled => "e/r/w commands disabled in sandbox mode"
  | regex fault => fault.message

/-- A part of a script, and where it comes from. -/
inductive Chunk where
  /-- An argument, the `n`-th one. -/
  | argument (n : Nat) (text : String)
  | file (name text : String)
  deriving Inhabited

namespace Chunk

/-- The text of a chunk. -/
def text : Chunk → List Char
  | argument _ text => text.toList
  | file _ text => text.toList

/-- How a place in a chunk is told: by the characters read of an argument, or by the line of a file. -/
def place (taken line : Nat) : Chunk → String
  | argument n _ => "-e expression #" ++ toString n ++ ", char " ++ toString taken ++ ": "
  | file name _ => "file " ++ name ++ " line " ++ toString line ++ ": "

end Chunk

/-- What was read of a script so far, and what is left of the chunk. -/
structure Draft where
  script : Script := {}
  rest : List Char := []
  /-- How many characters of the chunk were read. -/
  taken : Nat := 0
  line : Nat := 1
  /-- Whether this is the first chunk. -/
  isFirst : Bool := true
  /-- The blocks that are open: where their first commands are, and where they were opened. -/
  blocks : List (Nat × String) := []
  /-- The text of the last command as it is written, if its end is still to come. -/
  pending : Option (TextPlace × List Char) := none
  extended : Bool := false
  sandboxed : Bool := false
  chunk : Chunk := default
  deriving Inhabited

/-- A reader of a part of a script. -/
abbrev Reading := ExceptT ScriptFault (StateM Draft)

namespace Reading

/-! ## Characters -/

/-- Read from the front of what is left by a function that returns the rest. -/
def front {α : Type} (f : List Char → α × List Char) : Reading α := modifyGet fun d =>
  let (a, rest) := f d.rest
  let used := d.rest.take (d.rest.length - rest.length)
  (a, { d with rest, taken := d.taken + used.length, line := d.line + used.count '\n' })

/-- The next character, if there is one. -/
def next : Reading (Option Char) :=
  Reading.front fun cs => (cs.head?, cs.tail)

/-- Give back the last character that was read. -/
def back : Option Char → Reading Unit
  | none => pure ()
  | some c => modify fun d =>
    { d with rest := c :: d.rest, taken := d.taken - 1, line := if c = '\n' then d.line - 1 else d.line }

/-- The characters at the front that a test accepts. -/
def span (accepts : Char → Bool) : Reading (List Char) :=
  Reading.front fun cs => (cs.takeWhile accepts, cs.dropWhile accepts)

/-- Whether a character is a blank in a line. -/
def isBlank (c : Char) : Bool :=
  c = ' ' || c = '\t'

/-- Whether a character is white space. -/
def isSpace (c : Char) : Bool :=
  c = ' ' || ('\t' ≤ c && c ≤ '\r')

/-- The next character that is no blank. -/
def nextUnblank : Reading (Option Char) := do
  let _ ← span isBlank
  next

/-- A number whose first character was read; none stands for zero. -/
def number (first : Option Char) : Reading Nat := do
  match first with
  | some c =>
    if c.isDigit then return Text.numberIn 10 (c :: (← span Char.isDigit))
    back first
    return 0
  | none => return 0

/-- The rest of a line, with its end taken. -/
def restOfLine : Reading (List Char) := do
  let text ← span (· ≠ '\n')
  let _ ← next
  return text

/-- What follows a command: nothing, a separator, a comment or the end of a block. -/
def commandEnd : Reading Unit := do
  let c ← nextUnblank
  match c with
  | none => pure ()
  | some '\n' => pure ()
  | some ';' => pure ()
  | some '#' => back c
  | some '\x7d' => back c
  | some _ => throw .extraCharacters

/-- A label: up to white space, a semicolon or the end of a block. -/
def label : Reading String := do
  let _ ← span isBlank
  let text ← span fun c => !isSpace c && c ≠ ';' && c ≠ '\x7d'
  return .ofList text

/-- The name of a file: the rest of the line. -/
def fileName : Reading String := do
  if (← get).sandboxed then throw .disabled
  let _ ← span isBlank
  let name ← restOfLine
  if name.isEmpty then throw .noFile
  return .ofList name

/-! ## Delimited texts -/

/-- The text up to a delimiter in the same line, and what follows it. A backslash takes the meaning of
the delimiter away, and joins lines. In an expression a backslash and an `n` stand for a newline. -/
def delimited (delimiter : Char) (isRegex : Bool) : List Char → Option (List Char) × List Char
  | [] => (none, [])
  | ['\\'] => if delimiter = '\\' then (some [], []) else (none, [])
  | c :: d :: rest =>
    if c = delimiter then (some [], d :: rest)
    else if c = '\n' then (none, c :: d :: rest)
    else if c = '\\' then
      let kept :=
        if d = 'n' && isRegex then ['\n']
        else if d = '\n' then ['\n']
        else if d = delimiter && (isRegex || d ≠ '&') then [d]
        else ['\\', d]
      let (text?, rest) := delimited delimiter isRegex rest
      (text?.map (kept ++ ·), rest)
    else
      let (text?, rest) := delimited delimiter isRegex (d :: rest)
      (text?.map (c :: ·), rest)
  | [c] => if c = delimiter then (some [], []) else (none, if c = '\n' then [c] else [])

/-- What an escape stands for. -/
inductive Escaped where
  | literal (c : Char)
  /-- A character that may have a meaning where it stands. -/
  | coded (c : Char)
  /-- The backslash and what follows it, as they are. -/
  | kept
  deriving Inhabited

/-- What a backslash before some characters stands for, and the characters after the escape. -/
def escape : List Char → Escaped × List Char
  | 'a' :: rest => (.literal '\x07', rest)
  | 'f' :: rest => (.literal '\x0c', rest)
  | 'n' :: rest => (.literal '\n', rest)
  | 'r' :: rest => (.literal '\r', rest)
  | 't' :: rest => (.literal '\t', rest)
  | 'v' :: rest => (.literal '\x0b', rest)
  | 'c' :: c :: rest => (.literal (Char.ofNat (c.toUpper.toNat ^^^ 0x40)), rest)
  | c :: rest =>
    let base := if c = 'd' then 10 else if c = 'o' then 8 else 16
    let digits := (rest.take (if base = 16 then 2 else 3)).takeWhile (Text.isDigitIn base)
    if c ≠ 'd' && c ≠ 'o' && c ≠ 'x' then (.kept, c :: rest)
    else if digits.isEmpty then (.literal c, rest)
    else (.coded (Char.ofNat (Text.numberIn base digits % 256)), rest.drop digits.length)
  | [] => (.kept, [])

/-- A text with its escapes replaced; `protects` tells which characters keep a backslash when an escape
stands for them. At most `fuel` characters. -/
def unescape (protects : Char → Bool) : (fuel : Nat) → List Char → List Char
  | 0, cs => cs
  | _ + 1, [] => []
  | fuel + 1, '\\' :: cs =>
    match escape cs with
    | (.literal c, rest) => c :: unescape protects fuel rest
    | (.coded c, rest) => (if protects c then ['\\', c] else [c]) ++ unescape protects fuel rest
    | (.kept, c :: rest) => '\\' :: c :: unescape protects fuel rest
    | (.kept, []) => ['\\']
  | fuel + 1, c :: cs => c :: unescape protects fuel cs

/-- A text with its escapes replaced and all other backslashes taken away. -/
def plainText (cs : List Char) : List Char :=
  go (unescape (· = '\\') (cs.length + 1) cs)
where
  /-- The text without the backslashes that protect what follows them. -/
  go : List Char → List Char
    | '\\' :: c :: rest => c :: go rest
    | c :: rest => c :: go rest
    | [] => []

/-- The pieces of a replacement in which escapes are replaced. -/
def replacementParts : List Char → List ReplacementPart
  | [] => []
  | '\\' :: c :: rest =>
    let part : ReplacementPart := match c with
      | 'L' => .allLetters .lower
      | 'U' => .allLetters .upper
      | 'E' => .allLetters .asIs
      | 'l' => .oneLetter .lower
      | 'u' => .oneLetter .upper
      | c => if c.isDigit then .group (c.toNat - '0'.toNat) else .text [c]
    part :: replacementParts rest
  | '&' :: rest => .group 0 :: replacementParts rest
  | c :: rest => .text [c] :: replacementParts rest

/-- The greatest group that a replacement asks for. -/
def greatestGroup (parts : List ReplacementPart) : Nat :=
  parts.foldl (fun n p => match p with
    | .group m => max n m
    | _ => n) 0

/-- The pattern that an expression is; the empty one stands for the one that was used last. -/
def pattern (text : List Char) (ignoresCase multiline : Bool) : Reading (Option LinesPattern) := do
  if text.isEmpty then
    if ignoresCase || multiline then throw .flagsOfNothing
    return none
  let base := if (← get).extended then RegexSyntax.strictExtended else RegexSyntax.basic
  let plain := unescape (· = '\\') (text.length + 1) text
  match Regex.Pattern.ofText { base with ignoresCase } plain with
  | .ok pattern => return some { pattern, multiline }
  | .error e => throw (.regex e)

/-! ## Addresses -/

/-- The modifiers after the expression of an address. -/
def addressFlags : (fuel : Nat) → (ignoresCase multiline : Bool) → Reading (Bool × Bool)
  | 0, i, m => return (i, m)
  | fuel + 1, i, m => do
    let c ← nextUnblank
    match c with
    | some 'I' => addressFlags fuel true m
    | some 'M' => addressFlags fuel i true
    | _ =>
      back c
      return (i, m)

/-- An address whose first character was read, if that starts one. -/
def address? (first : Option Char) : Reading (Option RangeEnd) := do
  let expression (delimiter : Char) : Reading (Option RangeEnd) := do
    let some text ← Reading.front (delimited delimiter true) | throw .openAddress
    let (i, m) ← addressFlags (← get).rest.length false false
    return some (.address (.matching (← pattern text i m)))
  match first with
  | some '/' => expression '/'
  | some '\\' =>
    let some delimiter ← next | throw .openAddress
    expression delimiter
  | some '$' => return some (.address .last)
  | some '+' => return some (.after (← number (← nextUnblank)))
  | some '~' => return some (.multiple (← number (← nextUnblank)))
  | some c =>
    if !c.isDigit then return none
    let n ← number first
    let sign ← nextUnblank
    if sign ≠ some '~' then
      back sign
      return some (.address (.number n))
    let step ← number (← nextUnblank)
    return some (.address (if step > 0 then .every n step else .number n))
  | none => return none

/-- The lines that a command is for, and the character after them. -/
def selector (first : Option Char) : Reading (Selector × Option Char) := do
  let (s, c) ← match ← address? first with
    | none => pure (({} : Selector), first)
    | some (.address a) =>
      let c ← nextUnblank
      let (stop, c) ← if c = some ',' then
          match ← address? (← nextUnblank) with
          | none => throw .unexpectedComma
          | some stop => pure (some stop, ← nextUnblank)
        else pure (none, c)
      let zeroAllowed := match stop with
        | some (.address (.matching _)) => true
        | _ => false
      match a with
      | .number 0 => if !zeroAllowed then throw .lineZero
      | _ => pure ()
      pure (({ first := some a, stop } : Selector), c)
    | some _ => throw .stepFirst
  if c = some '!' then
    let _ ← span isBlank
    let c ← nextUnblank
    if c = some '!' then throw .manyNegations
    return ({ s with negated := true }, c)
  return (s, c)

/-! ## Commands -/

/-- A text up to the end of a line without a backslash before it, as it is written, and whether it
stops because the chunk does. -/
def openText : List Char → (List Char × Bool) × List Char
  | [] => (([], false), [])
  | ['\\'] => ((['\\', '\n'], true), [])
  | '\n' :: rest => ((['\\', '\n'], false), rest)
  | '\\' :: c :: rest =>
    let ((text, isOpen), rest) := openText rest
    (('\\' :: c :: text, isOpen), rest)
  | [c] => (([c, '\\', '\n'], false), [])
  | c :: rest =>
    let ((text, isOpen), rest) := openText rest
    ((c :: text, isOpen), rest)

/-- Add a command. -/
def add (selector : Selector) (action : Action) : Reading Unit :=
  modify fun d => { d with script := { d.script with steps := d.script.steps.push { selector, action } } }

/-- Read more of a text, of which some was read. -/
def moreText (place : TextPlace) (soFar : List Char) : Reading Unit := do
  let isEnded := (← get).rest.isEmpty
  let (text, isOpen) ← Reading.front openText
  let text := if isEnded && soFar.isEmpty then [] else soFar ++ text
  modify fun d =>
    let last := d.script.steps.size - 1
    let action : Action := .text place (plainText text)
    let steps := d.script.steps.modify last fun s => { s with action }
    { d with script := { d.script with steps }, pending := if isOpen || isEnded then some (place, text) else none }

/-- A command that is a text. -/
def textCommand (s : Selector) (place : TextPlace) : Reading Unit := do
  let c ← nextUnblank
  if c.isNone then throw .noText
  add s (.text place [])
  if c = some '\\' then
    let c ← next
    if c ≠ some '\n' then back c
  else back c
  moreText place []

/-- The flags of a substitution. -/
def substitutionFlags : (fuel : Nat) → Substitution → (ignoresCase multiline counted : Bool) →
    Reading (Substitution × Bool × Bool)
  | 0, s, i, m, _ => return (s, i, m)
  | fuel + 1, s, i, m, counted => do
    let c ← nextUnblank
    let stop : Reading (Substitution × Bool × Bool) := return (s, i, m)
    match c with
    | none => stop
    | some '\n' => stop
    | some ';' => stop
    | some '#' =>
      back c
      stop
    | some '\x7d' =>
      back c
      stop
    | some 'i' => substitutionFlags fuel s true m counted
    | some 'I' => substitutionFlags fuel s true m counted
    | some 'm' => substitutionFlags fuel s i true counted
    | some 'M' => substitutionFlags fuel s i true counted
    | some 'e' =>
      if (← get).sandboxed then throw .disabled
      substitutionFlags fuel { s with evaluates := true, printsBefore := s.prints, prints := false } i m counted
    | some 'p' =>
      if s.prints || s.printsBefore then throw .twoPrints
      substitutionFlags fuel { s with prints := true } i m counted
    | some 'g' =>
      if s.all then throw .twoAlls
      substitutionFlags fuel { s with all := true } i m counted
    | some 'w' => return ({ s with file := some (← fileName) }, i, m)
    | some c =>
      if !c.isDigit then throw .unknownFlag
      if counted then throw .twoCounts
      let count ← number (some c)
      if count = 0 then throw .zeroCount
      substitutionFlags fuel { s with count } i m true

/-- A command that replaces matches. -/
def substitution : Reading Action := do
  let some delimiter ← next | throw .openSubstitution
  let some text ← Reading.front (delimited delimiter true) | throw .openSubstitution
  let some shown ← Reading.front (delimited delimiter false) | throw .openSubstitution
  let replacement := replacementParts (unescape (fun c => c = '\\' || c = '&') (shown.length + 1) shown)
  let fuel := (← get).rest.length + 1
  let (s, i, m) ← substitutionFlags fuel { pattern := none, replacement } false false false
  let pattern ← pattern text i m
  let greatest := greatestGroup replacement
  if pattern.any (·.pattern.groupCount < greatest) then throw (.badReference greatest)
  return .substitute { s with pattern }

/-- A command that replaces single characters. -/
def translation : Reading Action := do
  let some delimiter ← next | throw .openTranslation
  let some source ← Reading.front (delimited delimiter false) | throw .openTranslation
  let some target ← Reading.front (delimited delimiter false) | throw .openTranslation
  let (source, target) := (plainText source, plainText target)
  if source.length ≠ target.length then throw .lengths
  commandEnd
  return .translate (source.zip target)

/-- A comment. At the start of a script it can tell that lines are only written when a command does
it. -/
def comment : Reading Unit := do
  let d ← get
  let text ← restOfLine
  if d.isFirst && d.taken = 1 && text.head? = some 'n' then
    modify fun d => { d with script := { d.script with silent := true } }

/-- Whether a version is later than the one whose scripts are read. -/
def isLater (version : String) : Bool :=
  let parts := (version.splitOn ".").map fun p => (Text.readNumber? p).getD 0
  let wanted := [parts.getD 0 0, parts.getD 1 0, parts.getD 2 0]
  [4, 9, 0] < wanted

/-- A number after a command, if there is one. -/
def count? : Reading (Option Nat) := do
  let c ← nextUnblank
  if c.any Char.isDigit then return some (← number c)
  back c
  return none

/-- A command whose selector was read, with the character that names it. -/
def command (s : Selector) (name : Char) : Reading Unit := do
  let simple (action : Action) : Reading Unit := do
    commandEnd
    add s action
  let atMostOne : Reading Unit := do
    if s.stop.isSome then throw .oneAddress
  match name with
  | '#' =>
    if s.first.isSome then throw .commentAddress
    comment
  | '\x7b' => modify fun d =>
      let place := d.chunk.place 0 d.line
      let steps := d.script.steps.push { selector := s, action := .block 0 }
      { d with script := { d.script with steps }, blocks := (d.script.steps.size, place) :: d.blocks }
  | '\x7d' =>
    match (← get).blocks with
    | [] => throw .strayBlockEnd
    | (start, _) :: blocks =>
      if s.first.isSome then throw .blockEndAddress
      commandEnd
      modify fun d =>
        let stop := d.script.steps.size
        let steps := d.script.steps.modify start fun s => { s with action := .block stop }
        { d with script := { d.script with steps := steps.push { action := .blockEnd } }, blocks }
  | ':' =>
    if s.first.isSome then throw .labelAddress
    let name ← label
    if name = "" then throw .noLabel
    modify fun d =>
      { d with script := { d.script with labels := (name, d.script.steps.size) :: d.script.labels } }
  | 'a' => textCommand s .after
  | 'i' => textCommand s .before
  | 'c' => textCommand s .instead
  | 'd' => simple .delete
  | 'D' => simple .deleteFirst
  | 'p' => simple .print
  | 'P' => simple .printFirst
  | '=' => simple .number
  | 'F' => simple .inputName
  | 'n' => simple .next
  | 'N' => simple .joinNext
  | 'h' => simple (.hold false)
  | 'H' => simple (.hold true)
  | 'g' => simple (.fetch false)
  | 'G' => simple (.fetch true)
  | 'x' => simple .exchange
  | 'z' => simple .clear
  | 'l' => simple (.list (← count?))
  | 'q' =>
    atMostOne
    simple (.quit true ((← count?).getD 0))
  | 'Q' =>
    atMostOne
    simple (.quit false ((← count?).getD 0))
  | 's' => add s (← substitution)
  | 'y' => add s (← translation)
  | 'b' => add s (.jump .always (← label))
  | 't' => add s (.jump .replaced (← label))
  | 'T' => add s (.jump .notReplaced (← label))
  | 'r' => add s (.appendFile (← fileName))
  | 'R' => add s (.appendLine (← fileName))
  | 'w' => add s (.write (← fileName) false)
  | 'W' => add s (.write (← fileName) true)
  | 'e' =>
    if (← get).sandboxed then throw .disabled
    let _ ← span isBlank
    add s (.execute (← restOfLine))
  | 'v' => if isLater (← label) then throw .tooOld
  | c => throw (.unknownCommand c)

/-- The commands of a chunk; at most `fuel`. -/
def commands : (fuel : Nat) → Reading Unit
  | 0 => pure ()
  | fuel + 1 => do
    let _ ← span fun c => isSpace c || c = ';'
    match ← next with
    | none => pure ()
    | first =>
      let (s, name) ← selector first
      let some name := name | throw .missingCommand
      command s name
      commands fuel

end Reading

/-- What was read with one more chunk, or what is wrong with that. -/
def Draft.read (d : Draft) (chunk : Chunk) : Except (String × ScriptFault) Draft :=
  let start := { d with rest := chunk.text, taken := 0, line := 1, chunk }
  let all : Reading Unit := do
    if let some (place, soFar) := d.pending then Reading.moreText place soFar
    Reading.commands (chunk.text.length + 1)
  match (ExceptT.run all).run start with
  | (.ok (), d) => .ok { d with isFirst := false }
  | (.error fault, d) => .error (chunk.place d.taken d.line, fault)

/-- The script that was read, unless a block is open. -/
def Draft.finish (d : Draft) : Except (String × ScriptFault) Script :=
  match d.blocks with
  | [] => .ok d.script
  | (_, place) :: _ => .error (place, .openBlock)

end CommandSpec.Utility.Editing
