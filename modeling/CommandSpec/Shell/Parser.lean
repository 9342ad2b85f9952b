import CommandSpec.Number
import CommandSpec.Shell.Reader

/-!
# Parsing scripts

The parser is a recursive descent over the tokens of a script. Words and commands are read by one
recursion, because a word may hold commands. Every function takes a bound on the depth of the descent;
`Input.next?` sets it from the length of the text. A script is parsed line by line, so that the lines
before a mistake are still run.
-/

namespace CommandSpec.Shell

/-- What a sequence of segments stands in. -/
inductive Place where
  /-- A word outside quotes. -/
  | bare
  /-- Double quotes, which may stand in the braces of a parameter. -/
  | quoted (inBrace : Bool)
  /-- A here-document. -/
  | document
  /-- The word of a parameter in braces. -/
  | brace (inQuotes : Bool)
  /-- An arithmetic expression with this many open parentheses. -/
  | arithmetic (depth : Nat)
  deriving DecidableEq, Repr

/-- A place and whether it lies in a here-document, which ends there at a line of its own. -/
structure Scope where
  place : Place
  inDocument : Bool := false
  deriving DecidableEq, Repr

namespace Scope

/-- Whether what is expanded here is neither split nor matched. -/
def isQuoted (s : Scope) : Bool :=
  match s.place with
  | .bare => false
  | .brace inQuotes => inQuotes
  | _ => true

/-- Whether a double quote opens quotes. -/
def takesQuotes (s : Scope) : Bool :=
  match s.place with
  | .bare => true
  | .brace _ => true
  | _ => false

/-- Whether a double quote that opens quotes here stands in the braces of a parameter. -/
def isBrace (s : Scope) : Bool :=
  match s.place with
  | .brace _ => true
  | _ => false

/-- Whether a character ends the scope; two parentheses end an expression. -/
def endsAt (s : Scope) (c : Char) (next : Option Char) : Bool :=
  match s.place with
  | .bare => Parser.isMeta c
  | .quoted _ => c = '\x22'
  | .document => false
  | .brace _ => c = '\x7d'
  | .arithmetic depth => depth = 0 && c = ')' && next = some ')'

/-- What is wrong when the scope is still open at the end of its text, unless it may end there. -/
def missingEnd? (s : Scope) : Option String :=
  match s.place with
  | .bare => none
  | .document => none
  | .quoted inBrace =>
    some (if inBrace && s.inDocument then "Missing '\x7d'" else "Unterminated quoted string")
  | .brace inQuotes =>
    some (if inQuotes && !s.inDocument then "Unterminated quoted string" else "Missing '\x7d'")
  | .arithmetic _ => some "Missing '))'"

/-- Whether a backslash takes away the meaning of a character where not every character loses it. -/
def escapes (s : Scope) (c : Char) : Bool :=
  c = '$' || c = '\x60' || c = '\\' ||
    match s.place with
    | .quoted inBrace => c = '\x22' || (inBrace && c = '\x7d')
    | .brace _ => c = '\x22' || c = '\x7d'
    | .arithmetic _ => c = '\x22' && !s.inDocument
    | _ => false

/-- Whether a character is text that goes on up to a character with a meaning. -/
def isText (s : Scope) (c : Char) : Bool :=
  c ≠ '\\' && c ≠ '$' && c ≠ '\x60' && !(s.inDocument && c = '\n') &&
    match s.place with
    | .bare => !Parser.isMeta c && c ≠ '\x22' && c ≠ '\x27'
    | .quoted _ => c ≠ '\x22'
    | .document => true
    | .brace inQuotes => c ≠ '\x22' && c ≠ '\x7d' && (inQuotes || c ≠ '\x27')
    | .arithmetic _ => c ≠ '(' && c ≠ ')'

end Scope

/-- Which words have a meaning where a token is read, and whether it may stand on another line. -/
structure Reading where
  lines : Bool := false
  reserved : Bool := false
  aliases : Bool := false

/-- The parts of a simple command, the latest first. -/
structure Simple where
  assignments : List (String × Word) := []
  words : List Word := []
  redirects : List Redirect := []
  deriving Inhabited

namespace Parser

/-- The text up to the next backquote, with the backslashes before backquotes, dollars and
backslashes taken off, and the number of characters it takes; none when it is not closed. Inside
quotes a backslash before a quote goes too. -/
def backquoted? (quoted : Bool) (taken : List Char) (length : Nat) :
    List Char → Option (List Char × Nat)
  | [] => none
  | '\x60' :: _ => some (taken.reverse, length + 1)
  | '\\' :: '\n' :: cs => backquoted? quoted taken (length + 2) cs
  | '\\' :: c :: cs =>
    let isTaken := c = '$' || c = '\x60' || c = '\\' || (quoted && c = '\x22')
    backquoted? quoted (if isTaken then c :: taken else c :: '\\' :: taken) (length + 2) cs
  | c :: cs => backquoted? quoted (c :: taken) (length + 1) cs

/-- What is done to a parameter, as its name alone tells. -/
inductive Naming where
  /-- The name is followed by what is done. -/
  | open (name : String)
  | length (name : String)
  | meaningless

/-- Take the name of a parameter in braces, with a number sign that asks for its length. -/
def takeNaming : Parser Naming := do
  match ← peek with
  | [] => return .meaningless
  | c :: _ =>
    if isNameStart c then return .open (← takeRun isNameChar)
    if c.isDigit then return .open (← takeRun Char.isDigit)
    if c = '\x7d' then return .meaningless
    advance 1
    if c ≠ '#' then return if isSpecialParameter c then .open c.toString else .meaningless
    match ← peek with
    | [] => return .open "#"
    | d :: ds =>
      if isNameChar d then
        return .length (← takeRun (if d.isDigit then Char.isDigit else isNameChar))
      if d = '\x7d' || (ds.drop (joinLength ds)).head? ≠ some '\x7d' then return .open "#"
      advance 1
      return if isSpecialParameter d then .length d.toString else .meaningless

/-- What an alternative word is used for, told by the character before it. -/
def alternative? : Char → Option Alternative
  | '-' => some .default
  | '=' => some .assign
  | '?' => some .complain
  | '+' => some .replace
  | _ => none

/-- The start of a line of a here-document: the text to keep of it, or none if it ends the document. -/
def startLine : Parser (Option String) := do
  match (← get).current with
  | none => return some ""
  | some d =>
    let _ ← peek
    let before := (← get).length
    skipTabs d.stripTabs
    if ← takeDelimiter d.delimiter then return none
    if (← get).length < before && (← peekRaw).take 2 = ['\\', '\n'] then
      advance 2
      return some "\\\n"
    return some ""

/-- Read once more with the documents that were found, as often as documents stand inside each other. -/
def readAgain {α : Type} (read : List (Nat × Word) → Except SyntaxError (α × Input)) :
    Nat → α × Input → Except SyntaxError (α × Input)
  | 0, result => .ok result
  | n + 1, (_, left) => do readAgain read n (← read left.found)

mutual

/-- The segments up to the end of a scope. -/
def segments : (fuel : Nat) → Scope → Parser Word
  | 0, _ => tooDeep
  | fuel + 1, scope => do
    match ← peek with
    | [] =>
      modify fun i => { i with sawEnd := true }
      scope.missingEnd?.elim (pure []) fail
    | c :: cs =>
      if scope.endsAt c (cs.drop (joinLength cs)).head? then return []
      let isOpen := !scope.isQuoted
      if c = '\\' then
        match cs with
        | d :: _ =>
          advance 2
          let text := if isOpen || scope.escapes d then d.toString else .ofList ['\\', d]
          return .text true text :: (← segments fuel scope)
        | [] =>
          advance 1
          return .text true "\\" :: (← segments fuel scope)
      else if c = '\x27' && isOpen then
        let body := cs.takeWhile (· ≠ '\x27')
        advance (body.length + 1)
        if (← peekRaw).isEmpty then fail "Unterminated quoted string"
        advance 1
        return .text true (.ofList body) :: (← segments fuel scope)
      else if c = '\x22' && scope.takesQuotes then
        advance 1
        let inner ← segments fuel { scope with place := .quoted scope.isBrace }
        advance 1
        let inner := if inner.isEmpty then [Segment.text true ""] else inner
        return inner ++ (← segments fuel scope)
      else if (c = '$' || c = '\x60') && (← get).isLiteral then
        advance 1
        return .text scope.isQuoted c.toString :: (← segments fuel scope)
      else if c = '$' then
        advance 1
        let segment ← dollar fuel scope
        return segment :: (← segments fuel scope)
      else if c = '\x60' then
        match backquoted? scope.isQuoted [] 0 cs with
        | none =>
          advance (← get).length
          fail "EOF in backquote substitution"
        | some (text, n) =>
          let script ← nested fuel text
          advance (n + 1)
          return .command scope.isQuoted script :: (← segments fuel scope)
      else if c = '\n' && scope.inDocument then
        advance 1
        match ← startLine with
        | none => scope.missingEnd?.elim (pure [.text true "\n"]) fail
        | some kept => return .text true ("\n" ++ kept) :: (← segments fuel scope)
      else if scope.isText c then
        let text ← takeRun scope.isText
        return .text scope.isQuoted text :: (← segments fuel scope)
      else
        advance 1
        let place := match scope.place with
          | .arithmetic depth => .arithmetic (if c = '(' then depth + 1 else depth - 1)
          | place => place
        return .text true c.toString :: (← segments fuel { scope with place })

/-- What a dollar stands for. -/
def dollar : (fuel : Nat) → Scope → Parser Segment
  | 0, _ => tooDeep
  | fuel + 1, scope => do
    match ← peek with
    | '(' :: cs =>
      if (cs.drop (joinLength cs)).head? = some '(' then
        advance 1
        let _ ← peek
        advance 1
        arithmetic fuel scope
      else substitution fuel scope.isQuoted
    | '\x7b' :: _ =>
      advance 1
      braces fuel scope
    | c :: _ =>
      if isNameStart c then return .parameter scope.isQuoted (← takeRun isNameChar) .plain
      else if c.isDigit || isSpecialParameter c then
        advance 1
        return .parameter scope.isQuoted c.toString .plain
      else return .text scope.isQuoted "$"
    | [] => return .text scope.isQuoted "$"

/-- An arithmetic expression, after its two opening parentheses. -/
def arithmetic : (fuel : Nat) → Scope → Parser Segment
  | 0, _ => tooDeep
  | fuel + 1, scope => do
    let expression ← segments fuel { scope with place := .arithmetic 0 }
    advance 1
    let _ ← peek
    advance 1
    return .arithmetic scope.isQuoted expression

/-- A script in parentheses, from the opening one on. Documents that it does not read are lost. -/
def substitution : (fuel : Nat) → (quoted : Bool) → Parser Segment
  | 0, _ => tooDeep
  | fuel + 1, quoted => do
    advance 1
    let outer ← get
    set { outer with awaited := [], isLiteral := false }
    let script ← commands fuel false true
    let t ← next fuel {}
    if !t.isOperator ")" then unexpectedFor t "\")\""
    modify fun i => { i with awaited := outer.awaited, isLiteral := outer.isLiteral }
    return .command quoted (.sequence script)

/-- A script that stands inside another as a text of its own; its lines are counted from one. -/
def nested : (fuel : Nat) → List Char → Parser Command
  | 0, _ => tooDeep
  | fuel + 1, text => do
    let input : Input := { Input.ofText (.ofList text) 1 with aliases := (← get).aliases }
    let read (known : List (Nat × Word)) : Except SyntaxError (List Command × Input) :=
      ((commands fuel false true).run { input with known }).mapError fun e => { e with atEnd := false }
    let first ← read []
    return .sequence (← readAgain read first.2.deepest first).1

/-- A parameter in braces, after the opening one. -/
def braces : (fuel : Nat) → Scope → Parser Segment
  | 0, _ => tooDeep
  | fuel + 1, scope => do
    let quoted := scope.isQuoted
    let word (quoted : Bool) : Parser Word := segments fuel { scope with place := .brace quoted }
    let closed (name : String) (modifier : Modifier) : Parser Segment := do
      advance 1
      return .parameter quoted name modifier
    let meaningless : Parser Segment := do
      let _ ← word quoted
      closed "" .meaningless
    match ← takeNaming with
    | .meaningless => meaningless
    | .length name =>
      if (← peek).head? = some '\x7d' then closed name .length else meaningless
    | .open name =>
      match ← peek with
      | [] => meaningless
      | c :: _ =>
        advance 1
        if c = '\n' then modify fun i => { i with line := i.line - 1 }
        if c = '\x7d' then return .parameter quoted name .plain
        if let some kind := alternative? c then
          return ← closed name (.alternative kind false (← word quoted))
        if c = '%' || c = '#' then
          let longest := (← peek).head? = some c
          if longest then advance 1
          return ← closed name (.trim ⟨c = '%', longest⟩ (← word false))
        if c ≠ ':' then return ← meaningless
        match ← peek with
        | [] => meaningless
        | d :: _ =>
          advance 1
          if let some kind := alternative? d then
            return ← closed name (.alternative kind true (← word quoted))
          if d ≠ '\x7d' then return ← meaningless
          let _ ← word quoted
          closed name .plain

/-- The token at the head of the input. -/
def token : (fuel : Nat) → Parser Token
  | 0 => tooDeep
  | fuel + 1 => do
    match ← peek with
    | [] =>
      modify fun i => { i with sawEnd := true }
      return .eof
    | c :: cs =>
      if c = ' ' || c = '\t' then
        advance ((cs.takeWhile fun d => d = ' ' || d = '\t').length + 1)
        token fuel
      else if c = '#' then
        advance ((cs.takeWhile (· ≠ '\n')).length + 1)
        token fuel
      else if c = '\n' then
        advance 1
        return .newline
      else if c = '&' || c = '|' || c = ';' then
        advance 1
        if (← peek).head? = some c then
          advance 1
          return .operator (.ofList [c, c])
        return .operator c.toString
      else if c = '(' || c = ')' then
        advance 1
        return .operator c.toString
      else if c = '<' || c = '>' then
        advance 1
        return .redirect none (← redirectOperator c)
      else
        let wordStart := (← get).length
        let word ← segments fuel { place := .bare }
        let end? := (← peek).head?.filter fun d => d = '<' || d = '>'
        match ((plainText? word).bind fun s => if s.length = 1 then Text.readNumber? s else none), end? with
        | some fd, some d =>
          advance 1
          return .redirect (some fd) (← redirectOperator d)
        | _, _ =>
          modify fun i => { i with lastWord := word, wordStart }
          return .word word

/-- The next token. Where it may stand on another line, the line ends before it are passed over. -/
def next : (fuel : Nat) → Reading → Parser Token
  | 0, _ => tooDeep
  | fuel + 1, reading => do
    let t ← match (← get).returned with
      | some t => do
        modify fun i => { i with returned := none }
        pure t
      | none => token fuel
    match t with
    | .newline =>
      if !reading.lines then return t
      takeDocuments fuel
      next fuel reading
    | .word word =>
      match plainText? word with
      | none => return t
      | some name =>
        if reading.reserved && Token.reservedWords.contains name then return .reserved name
        if ← takeAlias reading.aliases name then next fuel reading else return t
    | _ => return t

/-- The here-documents that begin at the line that starts here. -/
def takeDocuments : (fuel : Nat) → Parser Unit
  | 0 => tooDeep
  | fuel + 1 => do
    match (← get).awaited with
    | [] => return
    | d :: rest =>
      modify fun i => { i with awaited := rest }
      let body ← documentBody fuel d
      modify fun i => { i with found := (d.number, body) :: i.found }
      takeDocuments fuel

/-- The text of a here-document, from its first line on. -/
def documentBody : (fuel : Nat) → Document → Parser Word
  | 0, _ => tooDeep
  | fuel + 1, d => do
    let level := (← get).level + 1
    modify fun i => { i with deepest := max i.deepest level }
    if d.isQuoted then return [.text true (.ofList (← quotedLines d fuel).flatten)]
    let outer := (← get).current
    modify fun i => { i with current := some d, level }
    let body ← match ← startLine with
      | none => pure []
      | some kept => do
        pure (.text true kept :: (← segments fuel { place := .document, inDocument := true }))
    modify fun i => { i with current := outer, level := level - 1 }
    return body

/-- A redirection, after its operator. -/
def redirect : (fuel : Nat) → (fd : Option Nat) → (operator : String) → Parser Redirect
  | 0, _, _ => tooDeep
  | fuel + 1, fd, operator => do
    let isDocument := operator = "<<" || operator = "<<-"
    modify fun i => { i with isLiteral := isDocument }
    let t ← next fuel {}
    modify fun i => { i with isLiteral := false }
    match t with
    | .word target =>
      if isDocument then
        let (delimiter, isQuoted) := literalText target
        let number := (← get).asked
        let document : Document :=
          { number, delimiter := delimiter.toList, stripTabs := operator = "<<-", isQuoted }
        modify fun i => { i with asked := number + 1, awaited := i.awaited ++ [document] }
        return .document (fd.getD 0) (((← get).known.lookup number).getD [])
      else
        let standard := if operator.toList.head? = some '<' then 0 else 1
        return .file (fd.getD standard) operator target
    | t => unexpected t

/-- The redirections after a compound command. -/
def redirects : (fuel : Nat) → Reading → Parser (List Redirect)
  | 0, _ => tooDeep
  | fuel + 1, reading => do
    match ← next fuel reading with
    | .redirect fd operator =>
      let first ← redirect fuel fd operator
      return first :: (← redirects fuel {})
    | t =>
      giveBack t
      return []

/-- The rest of a simple command; words that come before its name may be assignments. -/
def parts : (fuel : Nat) → Simple → Parser Simple
  | 0, _ => tooDeep
  | fuel + 1, soFar => do
    match ← next fuel { aliases := soFar.words.isEmpty } with
    | .redirect fd operator =>
      let next ← redirect fuel fd operator
      parts fuel { soFar with redirects := next :: soFar.redirects }
    | .word word =>
      match if soFar.words.isEmpty then assignmentIn? word else none with
      | some assignment => parts fuel { soFar with assignments := assignment :: soFar.assignments }
      | none => parts fuel { soFar with words := word :: soFar.words }
    | t =>
      giveBack t
      return soFar

/-- A simple command, or a function if a single word is followed by parentheses. -/
def simple : (fuel : Nat) → Parser Command
  | 0 => tooDeep
  | fuel + 1 => do
    let line := (← get).line
    let soFar ← parts fuel {}
    let t ← next fuel {}
    match soFar.words, soFar.assignments, soFar.redirects with
    | [name], [], [] =>
      if t.isOperator "(" then
        let t ← next fuel {}
        if !t.isOperator ")" then unexpectedFor t "\")\""
        let name := (plainText? name).getD ""
        if !isName name || specialCommands.contains name then fail "Bad function name"
        return .function name (← command fuel ⟨true, true, true⟩)
    | _, _, _ => pure ()
    giveBack t
    return .simple line soFar.assignments.reverse soFar.words.reverse soFar.redirects.reverse

/-- Pass over a reserved word that has to be there. -/
def expect : (fuel : Nat) → Reading → (name : String) → Parser Unit
  | 0, _, _ => tooDeep
  | fuel + 1, reading, name => do
    let t ← next fuel reading
    if !t.isReserved name then unexpectedFor t ("\"" ++ name ++ "\"")

/-- Words up to the end of a list of them, and the token that ends it. -/
def words : (fuel : Nat) → Parser (List Word × Token)
  | 0 => tooDeep
  | fuel + 1 => do
    match ← next fuel {} with
    | .word word =>
      let (rest, t) ← words fuel
      return (word :: rest, t)
    | t => return ([], t)

/-- The rest of an `if`, from its condition on, up to the word that closes it. -/
def conditional : (fuel : Nat) → Parser Command
  | 0 => tooDeep
  | fuel + 1 => do
    let test ← body fuel
    expect fuel {} "then"
    let whenTrue ← body fuel
    let t ← next fuel {}
    if t.isReserved "elif" then return .conditional test whenTrue (some (← conditional fuel))
    if t.isReserved "else" then return .conditional test whenTrue (some (← body fuel))
    giveBack t
    return .conditional test whenTrue none

/-- The body of a loop, between `do` and `done`. -/
def loopBody : (fuel : Nat) → Reading → Parser Command
  | 0, _ => tooDeep
  | fuel + 1, reading => do
    expect fuel reading "do"
    let script ← body fuel
    expect fuel {} "done"
    return script

/-- The patterns of one case, from the last word on, up to the parenthesis that closes them. -/
def patterns : (fuel : Nat) → Parser (List Word)
  | 0 => tooDeep
  | fuel + 1 => do
    let first := (← get).lastWord
    let t ← next fuel {}
    if t.isOperator "|" then
      let _ ← next fuel {}
      return first :: (← patterns fuel)
    if !t.isOperator ")" then unexpectedFor t "\")\""
    return [first]

/-- The cases of a `case`, up to the word that closes it. -/
def cases : (fuel : Nat) → Parser (List (List Word × Command))
  | 0 => tooDeep
  | fuel + 1 => do
    let t ← next fuel { lines := true, reserved := true }
    if t.isReserved "esac" then return []
    if t.isOperator "(" then
      let _ ← next fuel {}
    let alternatives ← patterns fuel
    let body := Command.sequence (← commands fuel false true)
    let t ← next fuel { lines := true, reserved := true }
    if t.isReserved "esac" then return [(alternatives, body)]
    if !t.isOperator ";;" then unexpectedFor t "\";;\""
    return (alternatives, body) :: (← cases fuel)

/-- The commands in a part of a compound command, of which there is at least one; that the script ends
here is found where the part is to be closed. -/
def body : (fuel : Nat) → Parser Command
  | 0 => tooDeep
  | fuel + 1 => return .sequence (← commands fuel false false)

/-- One command that is not a pipeline. -/
def command : (fuel : Nat) → Reading → Parser Command
  | 0, _ => tooDeep
  | fuel + 1, reading => do
    let line := (← get).line
    let anywhere : Reading := ⟨true, true, true⟩
    let t ← next fuel reading
    let compound? : Option (Parser Command) := match t with
      | .operator "(" => some do
        let script ← body fuel
        let t ← next fuel {}
        if !t.isOperator ")" then unexpectedFor t "\")\""
        return .subshell script
      | .reserved "\x7b" => some do
        let script ← body fuel
        expect fuel {} "\x7d"
        return script
      | .reserved "if" => some do
        let whole ← conditional fuel
        expect fuel {} "fi"
        return whole
      | .reserved "while" => some do
        let test ← body fuel
        return .loop false test (← loopBody fuel {})
      | .reserved "until" => some do
        let test ← body fuel
        return .loop true test (← loopBody fuel {})
      | .reserved "for" => some do
        let name ← match ← next fuel {} with
          | .word word => pure ((plainText? word).getD "")
          | _ => pure ""
        if !isName name then fail "Bad for loop variable"
        let t ← next fuel anywhere
        if t.isReserved "in" then
          let (items, t) ← words fuel
          let isEnd := match t with
            | .newline => true
            | t => t.isOperator ";"
          if !isEnd then unexpected t
          return .forEach name (some items) (← loopBody fuel anywhere)
        else
          if !t.isOperator ";" then giveBack t
          return .forEach name none (← loopBody fuel anywhere)
      | .reserved "case" => some do
        let subject ← match ← next fuel {} with
          | .word word => pure word
          | t => unexpectedFor t "word"
        expect fuel anywhere "in"
        return .choose subject (← cases fuel)
      | _ => none
    match compound? with
    | some compound =>
      let whole ← compound
      match ← redirects fuel { reserved := true, aliases := true } with
      | [] =>
        match whole with
        | .subshell _ => return .placed line whole
        | .forEach _ _ _ => return .placed line whole
        | .choose _ _ => return .placed line whole
        | _ => return whole
      | rs => return .placed line (.redirected whole rs)
    | none =>
      match t with
      | .word _ =>
        giveBack t
        simple fuel
      | .redirect _ _ =>
        giveBack t
        simple fuel
      | t => unexpected t

/-- The commands that a pipeline goes on with. -/
def stages : (fuel : Nat) → Parser (List Command)
  | 0 => tooDeep
  | fuel + 1 => do
    let t ← next fuel {}
    if t.isOperator "|" then
      let first ← command fuel ⟨true, true, true⟩
      return first :: (← stages fuel)
    giveBack t
    return []

/-- A pipeline. -/
def pipeline : (fuel : Nat) → Reading → Parser Command
  | 0, _ => tooDeep
  | fuel + 1, reading => do
    let t ← next fuel reading
    let negated := t.isReserved "!"
    if !negated then giveBack t
    let first ← command fuel { reserved := negated, aliases := negated }
    let rest ← stages fuel
    return if negated || !rest.isEmpty then .pipeline negated (first :: rest) else first

/-- What follows a command joined by `&&` and `||`. -/
def joined : (fuel : Nat) → Command → Parser Command
  | 0, _ => tooDeep
  | fuel + 1, left => do
    let t ← next fuel {}
    if t.isOperator "&&" then
      joined fuel (.both left (← pipeline fuel ⟨true, true, true⟩))
    else if t.isOperator "||" then
      joined fuel (.either left (← pipeline fuel ⟨true, true, true⟩))
    else
      giveBack t
      return left

/-- The commands up to the end of the line, or over several lines up to what closes their list;
`mayEnd` tells whether it may be closed before the first one. -/
def commands : (fuel : Nat) → (inLine mayEnd : Bool) → Parser (List Command)
  | 0, _, _ => tooDeep
  | fuel + 1, inLine, mayEnd => do
    let atEnd (found : List Command) : Parser (List Command) := do
      takeDocuments fuel
      giveBack .eof
      return found
    match ← next fuel ⟨!inLine, true, true⟩ with
    | .newline =>
      takeDocuments fuel
      return []
    | .eof => atEnd []
    | t =>
      giveBack t
      if mayEnd && t.closesList then return []
      let first ← joined fuel (← pipeline fuel {})
      match ← next fuel {} with
      | .eof => atEnd [first]
      | .newline =>
        giveBack .newline
        return first :: (← commands fuel inLine (!inLine))
      | t =>
        if t.isOperator ";" then return first :: (← commands fuel inLine (!inLine))
        if t.isOperator "&" then return .background first :: (← commands fuel inLine (!inLine))
        if inLine then unexpected t
        giveBack t
        return [first]

end

/-- The commands of the next line; none at the end of the script. -/
def nextLine (fuel : Nat) : Parser (Option Command) := do
  let line ← commands fuel true false
  let isEnd := match (← get).returned with
    | some .eof => true
    | _ => false
  if line.isEmpty && isEnd then return none
  return some (.sequence line)

end Parser

/-- A bound on the depth of a parse: the length of the text times that of the aliases in it. -/
def Input.depth (i : Input) : Nat :=
  12 * (i.length + 1) * (1 + sumOf (i.aliases.map fun a => a.2.length)) + 64

/-- A text in which parameters and scripts are expanded as in a here-document. -/
def readExpandable? (text : String) : Option Word :=
  let input := Input.ofText text 1
  match (Parser.segments input.depth { place := .document, inDocument := true }).run input with
  | .ok (word, _) => some word
  | .error _ => none

/-- The commands of the next line of a script and what is left of it; none at its end. -/
def Input.next? (input : Input) : Except SyntaxError (Option (Command × Input)) := do
  let start : Input :=
    { input with
      returned := none, awaited := [], asked := 0, found := [], known := [], level := 0, deepest := 0
      sawEnd := false }
  let read (known : List (Nat × Word)) := (Parser.nextLine input.depth).run { start with known }
  let first ← read []
  let (command, left) ← Parser.readAgain read first.2.deepest first
  return command.map fun c => (c, left)

/-- Whether more text has to be read before the next line of a script can be taken. -/
def Input.isCutOff (i : Input) : Except SyntaxError (Option (Command × Input)) → Bool
  | .error e => i.source.isSome && e.atEnd
  | .ok none => i.source.isSome
  | .ok (some (_, left)) => i.source.isSome && left.sawEnd

end CommandSpec.Shell
