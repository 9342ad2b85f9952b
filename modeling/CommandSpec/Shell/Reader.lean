import CommandSpec.Shell.Syntax
import CommandSpec.Text.Integer
import CommandSpec.Text.Lines

/-!
# Reading scripts: the input and its tokens

The input of the parser is the text that is left, with the number of the line it starts in. A token is
a word, an operator, the operator of a redirection or the end of a line. A backslash before a newline
takes it away wherever text is read, except where it stands for itself.

A here-document lies after the line that asks for it. So the commands of a line are read once to find
its documents, and once more with the documents at hand. A script in a document may ask for documents
itself; then reading goes on until all of them are at hand.
-/

namespace CommandSpec.Shell

/-- Why a script cannot be parsed. -/
structure SyntaxError where
  line : Nat
  message : String
  /-- Whether the text ended where the mistake was found. -/
  atEnd : Bool := false
  deriving DecidableEq, Repr, Inhabited

/-- A part of a script that commands are made of. -/
inductive Token where
  | word (text : Word)
  /-- A word that opens, divides or closes commands. -/
  | reserved (name : String)
  | operator (text : String)
  /-- The operator of a redirection, with the descriptor before it. -/
  | redirect (fd : Option Nat) (operator : String)
  | newline
  | eof
  deriving Inhabited

namespace Token

/-- The words that are reserved. -/
def reservedWords : List String :=
  ["!", "case", "do", "done", "elif", "else", "esac", "fi", "for", "if", "in", "then", "until", "while",
    "\x7b", "\x7d"]

/-- A token as a complaint shows it. -/
def shown : Token → String
  | word _ => "word"
  | reserved name => "\"" ++ name ++ "\""
  | operator text => "\"" ++ text ++ "\""
  | redirect _ _ => "redirection"
  | newline => "newline"
  | eof => "end of file"

/-- Whether a token is a certain operator. -/
def isOperator (t : Token) (text : String) : Bool :=
  match t with
  | operator s => s = text
  | _ => false

/-- Whether a token is a certain reserved word. -/
def isReserved (t : Token) (name : String) : Bool :=
  match t with
  | reserved s => s = name
  | _ => false

/-- Whether a token closes a list of commands. -/
def closesList : Token → Bool
  | reserved name => ["then", "elif", "else", "fi", "do", "done", "esac", "\x7d"].contains name
  | operator text => text = ")" || text = ";;"
  | eof => true
  | _ => false

end Token

/-- A here-document that was asked for and lies after the current line. -/
structure Document where
  /-- How many documents were asked for before. -/
  number : Nat
  /-- The line that ends it. -/
  delimiter : List Char
  /-- Whether the tabs at the start of its lines go. -/
  stripTabs : Bool
  /-- Whether nothing in it is expanded. -/
  isQuoted : Bool
  deriving Inhabited

/-- The text that is left to parse. -/
structure Input where
  rest : List Char
  /-- How long the text is. -/
  length : Nat
  line : Nat := 1
  /-- A token that was read and put back. -/
  returned : Option Token := none
  /-- The last word that was read, and how long the text was before it. -/
  lastWord : Word := []
  wordStart : Nat := 0
  /-- Whether dollars and backquotes stand for themselves. -/
  isLiteral : Bool := false
  /-- The documents that begin after the current line. -/
  awaited : List Document := []
  /-- How many documents the commands asked for. -/
  asked : Nat := 0
  /-- The documents that were found, by their numbers. -/
  found : List (Nat × Word) := []
  /-- The documents that the commands are to hold. -/
  known : List (Nat × Word) := []
  /-- How many documents inside each other are being read, and at most were. -/
  level : Nat := 0
  deepest : Nat := 0
  /-- Whether the end of the text was seen. -/
  sawEnd : Bool := false
  /-- The document that is being read. -/
  current : Option Document := none
  /-- The names that stand for other texts. -/
  aliases : List (String × String) := []
  /-- The aliases whose texts are being read, each with the length of the text after it. -/
  active : List (String × Nat) := []
  /-- The length of the text before which an alias ended in a blank, so that the next word may be an
  alias too. -/
  aliasAt : Option Nat := none
  /-- The lines that were not shown yet, if all lines are to be shown when they are read. -/
  unseen : List (List Char) := []
  /-- How many lines were shown or passed over. -/
  seen : Nat := 0
  /-- The descriptor under which more text can be read, if there may be more. -/
  source : Option Nat := none
  deriving Inhabited

namespace Input

/-- A text to parse, from a line on. -/
def ofText (text : String) (line : Nat) : Input :=
  { rest := text.toList, length := text.length, line }

/-- A script that is read piece by piece under a descriptor. -/
def ofSource (fd : Nat) : Input :=
  { ofText "" 1 with source := some fd }

/-- The input with more text. NULs are no part of a script. -/
def extend (i : Input) (text : String) : Input :=
  let more := text.toList.filter (· ≠ Char.ofNat 0)
  { i with
    rest := i.rest ++ more, length := i.length + more.length
    unseen := Text.cutAfter (· == '\n') (i.unseen.flatten ++ more) }

/-- The lines up to one that has been read by now, and the input with them seen. -/
def justRead (i : Input) (line : Nat) : String × Input :=
  let n := line - i.seen
  (.ofList (i.unseen.take n).flatten, { i with unseen := i.unseen.drop n, seen := i.seen + n })

end Input

/-- Something that takes a part of the input. -/
abbrev Parser := StateT Input (Except SyntaxError)

namespace Parser

/-- Pass over characters. -/
def advance (n : Nat) : Parser Unit :=
  modify fun i =>
    { i with
      rest := i.rest.drop n, length := i.length - n, line := i.line + (i.rest.take n).count '\n' }

/-- How many characters the newlines at the head take that a backslash takes away. -/
def joinLength : List Char → Nat
  | '\\' :: '\n' :: cs => joinLength cs + 2
  | _ => 0

/-- The text that is left as it is. -/
def peekRaw : Parser (List Char) :=
  return (← get).rest

/-- The text that is left, from a character on that no backslash takes away. -/
def peek : Parser (List Char) := do
  let n := joinLength (← peekRaw)
  if n > 0 then advance n
  peekRaw

/-- The script is wrong here. -/
def fail {α : Type} (message : String) : Parser α := fun i =>
  .error ⟨i.line, "Syntax error: " ++ message, i.sawEnd || i.rest.isEmpty⟩

/-- A token stands where it must not. -/
def unexpected {α : Type} (t : Token) : Parser α :=
  fail (t.shown ++ " unexpected")

/-- A token stands where another one has to be, which is told as a complaint shows it. -/
def unexpectedFor {α : Type} (t : Token) (expected : String) : Parser α :=
  fail (t.shown ++ " unexpected (expecting " ++ expected ++ ")")

/-- Too many commands inside each other. -/
def tooDeep {α : Type} : Parser α :=
  fail "nested too deeply"

/-- Whether a character ends a word that is not quoted. -/
def isMeta (c : Char) : Bool :=
  c = ' ' || c = '\t' || c = '\n' || c = ';' || c = '&' || c = '|' || c = '<' || c = '>' || c = '(' ||
    c = ')'

/-- The characters at the head that `p` accepts, in reverse before `taken`, and how many characters
they take besides `length`. Newlines that a backslash takes away are passed over. -/
def runFrom (p : Char → Bool) (taken : List Char) (length : Nat) : List Char → List Char × Nat
  | '\\' :: '\n' :: cs => runFrom p taken (length + 2) cs
  | c :: cs => if p c then runFrom p (c :: taken) (length + 1) cs else (taken, length)
  | [] => (taken, length)

/-- Take the characters at the head that `p` accepts. -/
def takeRun (p : Char → Bool) : Parser String := do
  let (taken, n) := runFrom p [] 0 (← peekRaw)
  advance n
  return .ofList taken.reverse

/-- Put a token back, to be read again. -/
def giveBack (t : Token) : Parser Unit :=
  modify fun i => { i with returned := some t }

/-- Take the operator of a redirection whose first character was taken. -/
def redirectOperator (first : Char) : Parser String := do
  let follows (c : Char) : Parser Bool := do
    if (← peek).head? = some c then
      advance 1
      return true
    return false
  if first = '>' then
    if ← follows '>' then return ">>"
    if ← follows '|' then return ">|"
    if ← follows '&' then return ">&"
    return ">"
  else
    if ← follows '<' then return if ← follows '-' then "<<-" else "<<"
    if ← follows '&' then return "<&"
    if ← follows '>' then return "<>"
    return "<"

/-! ## Words -/

/-- The name assigned at the head of a text, when it starts with `name=`. -/
def assignmentAt? (cs : List Char) : Option String :=
  let name := cs.takeWhile isNameChar
  if isName (.ofList name) && (cs.drop name.length).head? = some '=' then some (.ofList name)
  else none

/-- The name that a word assigns to and the value, if it starts with `name=` outside quotes. -/
def assignmentIn? (word : Word) : Option (String × Word) :=
  match word with
  | .text false s :: rest =>
    (assignmentAt? s.toList).map fun name =>
      match s.toList.drop (name.length + 1) with
      | [] => (name, rest)
      | value => (name, .text false (.ofList value) :: rest)
  | _ => none

/-- The text of a word in which nothing is quoted or expanded. -/
def plainText? : Word → Option String
  | [.text false s] => some s
  | _ => none

/-- The literal text of a word, and whether any of it is quoted. -/
def literalText (word : Word) : String × Bool :=
  word.foldl (fun (text, quoted) segment => match segment with
    | .text q s => (text ++ s, quoted || q)
    | _ => (text, quoted)) ("", false)

/-! ## Here-documents -/

/-- Take a line that ends a document, if it stands at the head. -/
def takeDelimiter (delimiter : List Char) : Parser Bool := do
  let cs ← peekRaw
  if delimiter.isPrefixOf cs then
    match cs.drop delimiter.length with
    | [] =>
      advance delimiter.length
      modify fun i => { i with sawEnd := true }
      return true
    | '\n' :: _ =>
      advance (delimiter.length + 1)
      return true
    | _ => return false
  else return false

/-- Pass over the tabs at the start of a line. -/
def skipTabs (stripTabs : Bool) : Parser Unit := do
  if stripTabs then advance ((← peekRaw).takeWhile (· = '\t')).length

/-- The lines of a document in which nothing is expanded, as they stand in it. -/
def quotedLines (d : Document) : (fuel : Nat) → Parser (List (List Char))
  | 0 => tooDeep
  | fuel + 1 => do
    skipTabs d.stripTabs
    if ← takeDelimiter d.delimiter then return []
    match ← peekRaw with
    | [] =>
      modify fun i => { i with sawEnd := true }
      return []
    | cs =>
      let line := cs.takeWhile (· ≠ '\n')
      let line := line ++ (cs.drop line.length).take 1
      advance line.length
      return line :: (← quotedLines d fuel)

/-! ## Aliases -/

/-- Put the text of an alias in the place of the word that was just read, if that is one and is not
being read already. `wanted` tells that an alias may stand here; else it may after one that ended in a
blank. -/
def takeAlias (wanted : Bool) (name : String) : Parser Bool := do
  let i ← get
  let isNext := i.aliasAt.any fun n => i.wordStart ≤ n
  if isNext then modify fun i => { i with aliasAt := none }
  if !wanted && !isNext then return false
  let active := i.active.filter fun a => i.wordStart > a.2
  if active.any (·.1 = name) then return false
  match i.aliases.lookup name with
  | none => return false
  | some text =>
    let endsBlank := match text.toList.getLast? with
      | some c => c = ' ' || c = '\t'
      | none => false
    modify fun i => { i with
      rest := text.toList ++ i.rest
      length := i.length + text.length
      active := (name, i.length) :: active
      aliasAt := if endsBlank then some i.length else i.aliasAt }
    return true

end Parser

end CommandSpec.Shell
