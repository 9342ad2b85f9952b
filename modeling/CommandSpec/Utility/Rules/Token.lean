import CommandSpec.Utility.Rules.Syntax
import CommandSpec.Utility.Rules.Value

/-!
# Tokens

The text of a program is cut into tokens. A slash starts a regular expression unless it stands where an
operand has just ended; a `>` or a `|` after `print` sends output elsewhere unless it is in parentheses.
A newline ends a statement except where one cannot end, and a closing brace ends the statement before
it.
-/

namespace CommandSpec.Utility.Rules

/-- A token. -/
inductive Token where
  | finish
  | newline
  /-- An operator, a bracket or a separator. -/
  | sign (s : String)
  /-- A sign after which the target of an output stands. -/
  | output (d : Drain)
  | number (x : Float)
  | text (s : String)
  | regex (cs : List Char)
  /-- A name, and whether a parenthesis follows it at once. -/
  | name (s : String) (opens : Bool)
  | keyword (s : String)
  | function (f : Function)
  /-- A character that starts no token. -/
  | stray (c : Char)
  /-- Something that has no end, with the complaint. -/
  | fault (complaint : String)
  deriving Inhabited

/-- A token with what is told of it. -/
structure Lexeme where
  token : Token
  line : Nat
  shown : String
  /-- How many parentheses and braces are open after it. -/
  parens : Nat
  braces : Nat
  /-- Complaints about what stood before it. -/
  complaints : List String := []
  deriving Inhabited

/-- The words that are no names. -/
def keywords : List String :=
  ["BEGIN", "END", "function", "if", "else", "while", "for", "do", "in", "break", "continue", "next",
    "nextfile", "exit", "return", "delete", "getline", "print", "printf"]

/-- The functions by name. -/
def functions : List (String × Function) :=
  [("length", .length), ("index", .index), ("substr", .substring), ("split", .split),
    ("sub", .substitute false), ("gsub", .substitute true), ("match", .find), ("sprintf", .format),
    ("sin", .sine), ("cos", .cosine), ("atan2", .arctangent), ("exp", .exponential), ("log", .logarithm),
    ("sqrt", .root), ("int", .truncate), ("rand", .random), ("srand", .seed), ("tolower", .lower),
    ("toupper", .upper), ("system", .system), ("close", .close), ("fflush", .flush), ("systime", .time),
    ("strftime", .timeText), ("mktime", .timeOf)]

/-- The operators and separators, the longer ones first. -/
def signs : List String :=
  ["&&", "||", "==", "!=", "!~", "<=", ">=", "+=", "-=", "*=", "/=", "%=", "^=", "++", "--",
    "+", "-", "*", "/", "%", "^", "!", "<", ">", "=", "~", "?", ":", ",", "[", "]", "(", ")", "|", "$", ";"]

/-- Signs after which a statement cannot end, so that newlines there do not count. -/
def openSigns : List String :=
  ["&&", "||", ",", ";"]

/-! ## Parts of the text -/

/-- Skip blanks, joined lines and comments, and newlines on request: the text after them, and how many
lines were ended. -/
def skipBlanks (newlines : Bool) : List Char → Nat × List Char
  | [] => (0, [])
  | '\\' :: '\n' :: cs =>
    let (n, rest) := skipBlanks newlines cs
    (n + 1, rest)
  | '#' :: cs => skipComment cs
  | '\n' :: cs =>
    if newlines then
      let (n, rest) := skipBlanks newlines cs
      (n + 1, rest)
    else (0, '\n' :: cs)
  | c :: cs => if isBlank c then skipBlanks newlines cs else (0, c :: cs)
where
  /-- The same in a comment. -/
  skipComment : List Char → Nat × List Char
    | [] => (0, [])
    | '\n' :: cs =>
      if newlines then
        let (n, rest) := skipBlanks newlines cs
        (n + 1, rest)
      else (0, '\n' :: cs)
    | _ :: cs => skipComment cs

/-- What a letter after a backslash stands for, if it is not itself. -/
def escapedChar? : Char → Option Char
  | 'n' => some '\n'
  | 't' => some '\t'
  | 'f' => some '\x0c'
  | 'b' => some '\x08'
  | 'r' => some '\r'
  | 'a' => some '\x07'
  | 'v' => some '\x0b'
  | _ => none

/-- What stands after a backslash as a number in base 8, or in base 16 after an `x`, if it does: the
character with this number, and the text after it. -/
def readCode? : List Char → Option (Char × List Char)
  | 'x' :: cs =>
    let digits := (cs.take 2).takeWhile (Text.isDigitIn 16)
    if !digits.isEmpty then some (Char.ofNat (Text.numberIn 16 digits), cs.drop digits.length)
    else none
  | cs =>
    let digits := (cs.take 3).takeWhile (Text.isDigitIn 8)
    if digits.isEmpty then none
    else some (Char.ofNat (Text.numberIn 8 digits % 256), cs.drop digits.length)

/-- A text with the meaning of its backslashes, which stay where they have none; at most `fuel`
characters. -/
def unescaped : (fuel : Nat) → List Char → List Char
  | 0, cs => cs
  | _, [] => []
  | fuel + 1, '\\' :: c :: cs =>
    if c = '"' || c = '\\' then c :: unescaped fuel cs
    else
      match escapedChar? c, readCode? (c :: cs) with
      | some x, _ => x :: unescaped fuel cs
      | none, some (x, rest) => x :: unescaped fuel rest
      | none, none => '\\' :: c :: unescaped fuel cs
  | fuel + 1, c :: cs => c :: unescaped fuel cs

/-- The text up to a quotation mark, and what follows it. -/
def readQuoted? : List Char → Option (List Char × List Char)
  | [] => none
  | '"' :: cs => some ([], cs)
  | '\\' :: '\n' :: cs => readQuoted? cs
  | '\\' :: c :: cs => (readQuoted? cs).map fun (s, rest) => ('\\' :: c :: s, rest)
  | '\n' :: _ => none
  | c :: cs => (readQuoted? cs).map fun (s, rest) => (c :: s, rest)

/-- Where in a regular expression a character stands. -/
inductive RegexPlace where
  | outside
  /-- After an opening bracket. -/
  | opened
  /-- After an opening bracket and a sign that excludes what follows. -/
  | excluding
  /-- In brackets, after something else. -/
  | inside
  /-- In the name of a class in brackets. -/
  | named
  deriving DecidableEq, Repr, Inhabited

/-- The place after a character, of which the text that follows is known. -/
def RegexPlace.after (c : Char) (rest : List Char) : RegexPlace → RegexPlace
  | outside => if c = '[' then opened else outside
  | opened => if c = '^' then excluding else if c = '[' && namesClass rest then named else inside
  | excluding => if c = '[' && namesClass rest then named else inside
  | inside => if c = ']' then outside else if c = '[' && namesClass rest then named else inside
  | named => if c = ']' then inside else named
where
  /-- Whether a class is named here. -/
  namesClass : List Char → Bool
    | ':' :: cs => [':', ']'].isPrefixOf (cs.dropWhile Char.isAlpha)
    | _ => false

/-- The text of a regular expression up to its slash, and what follows it. A slash in brackets does not
count. -/
def readSlashed? : RegexPlace → List Char → Option (List Char × List Char)
  | _, [] => none
  | _, '\n' :: _ => none
  | p, '\\' :: c :: cs =>
    let kept := if c = '/' then [c] else ['\\', c]
    (readSlashed? (if p = .outside then p else .inside) cs).map fun (s, rest) => (kept ++ s, rest)
  | p, c :: cs =>
    if c = '/' && p = .outside then some ([], cs)
    else (readSlashed? (p.after c cs) cs).map fun (s, rest) => (c :: s, rest)

/-- The digits of a number with their text after it, if there are any. -/
def readNumber? (cs : List Char) : Option (List Char × List Char) :=
  let whole := cs.takeWhile Char.isDigit
  let rest := cs.drop whole.length
  let fraction := match rest with
    | '.' :: more => '.' :: more.takeWhile Char.isDigit
    | _ => []
  let digits := whole ++ fraction
  if digits.all (· = '.') then none
  else
    let rest := cs.drop digits.length
    let power := match rest with
      | e :: sign :: more =>
        if e.toLower ≠ 'e' then []
        else if sign.isDigit then e :: sign :: more.takeWhile Char.isDigit
        else if sign ≠ '+' && sign ≠ '-' then []
        else
          match more.takeWhile Char.isDigit with
          | [] => []
          | ds => e :: sign :: ds
      | _ => []
    some (digits ++ power, rest.drop power.length)

/-! ## All tokens -/

/-- How far a program is cut into tokens. -/
structure Cutting where
  rest : List Char
  line : Nat := 1
  parens : Nat := 0
  braces : Nat := 0
  /-- Whether a `print` was begun here. -/
  prints : Bool := false
  /-- Whether an operand has just ended. -/
  afterOperand : Bool := false
  /-- Whether a statement has just ended. -/
  afterStatement : Bool := false
  complaints : List String := []
  deriving Inhabited

namespace Cutting

/-- What follows some text, blanks and newlines skipped. -/
def skipLines (s : Cutting) (cs : List Char) : Cutting :=
  let (n, rest) := skipBlanks true cs
  { s with rest, line := s.line + n }

/-- The lexeme of a token, and the state after it. -/
def give (s : Cutting) (line : Nat) (token : Token) (shown : String) : Lexeme × Cutting :=
  ({ token, line, shown, parens := s.parens, braces := s.braces, complaints := s.complaints.reverse },
    { s with complaints := [] })

/-- A complaint with its line. -/
def inLine (line : Nat) (complaint : String) : String :=
  "line " ++ toString line ++ ": " ++ complaint

/-- The sign at the head of the text, if there is one. -/
def sign? (cs : List Char) : Option (String × List Char) :=
  (signs.find? fun s => s.toList.isPrefixOf cs).map fun s => (s, cs.drop s.length)

/-- The next lexeme, if the text does not start with something to be skipped, and the state after it. -/
def next (s : Cutting) : Option Lexeme × Cutting :=
  let (n, rest) := skipBlanks false s.rest
  let s := { s with line := s.line + n, rest }
  let here := s.line
  let some' (r : Lexeme × Cutting) : Option Lexeme × Cutting := (some r.1, r.2)
  let plain (s : Cutting) (token : Token) (shown : String) : Option Lexeme × Cutting :=
    some' (({ s with afterOperand := false, afterStatement := false }).give here token shown)
  let operand (s : Cutting) (token : Token) (shown : String) : Option Lexeme × Cutting :=
    some' (({ s with afterOperand := true, afterStatement := false }).give here token shown)
  let fault (complaint : String) : Option Lexeme × Cutting := plain { s with rest := [] } (.fault complaint) ""
  match s.rest with
  | [] => plain s .finish "end of file"
  | '\n' :: cs =>
    some' (({ s with rest := cs, line := here + 1, prints := false, afterOperand := false
                     afterStatement := true }).give here .newline "end of line")
  | '\x7b' :: cs =>
    plain { s.skipLines cs with braces := s.braces + 1, prints := false } (.sign "\x7b") "\x7b"
  | '\x7d' :: cs =>
    if s.braces = 0 then
      let rest := (skipBlanks false cs).2
      let rest := if rest.head? = some ';' then rest.drop 1 else rest
      (none, { s with rest, complaints := inLine here "extra '\x7d'" :: s.complaints })
    else if s.afterStatement then
      let s := { s with braces := s.braces - 1, prints := false }
      let rest := (skipBlanks false cs).2
      let rest := if s.braces = 0 && rest.head? = some ';' then rest.drop 1 else rest
      some' (({ s.skipLines rest with afterOperand := false }).give here (.sign "\x7d") "\x7d")
    else
      some' (({ s with afterOperand := false, afterStatement := true, prints := false }).give here (.sign ";")
        "\x7d")
  | '"' :: cs =>
    match readQuoted? cs with
    | none => fault (inLine here ("runaway string constant \"" ++ .ofList (cs.takeWhile (· ≠ '\n') |>.take 10) ++ " ..."))
    | some (text, rest) =>
      let lines := (cs.take (cs.length - rest.length)).countP (· = '\n')
      operand { s with rest, line := here + lines } (.text (.ofList (unescaped text.length text))) (.ofList text)
  | c :: cs =>
    if c = '/' && !s.afterOperand then
      match readSlashed? .outside cs with
      | none =>
        fault (inLine here ("runaway regular expression /" ++ .ofList (cs.takeWhile (· ≠ '\n') |>.take 10) ++ " ..."))
      | some (text, rest) => operand { s with rest } (.regex text) ("/" ++ .ofList text ++ "/")
    else if c.isAlpha || c = '_' then
      let word := String.ofList ((c :: cs).takeWhile fun c => c.isAlphanum || c = '_')
      let rest := (c :: cs).drop word.length
      if keywords.contains word then
        let s := { s with rest, prints := s.prints || word = "print" || word = "printf" }
        let s := if word = "do" || word = "else" then s.skipLines rest else s
        if word = "getline" then operand s (.keyword word) word else plain s (.keyword word) word
      else
        match functions.lookup word with
        | some f => plain { s with rest } (.function f) word
        | none => operand { s with rest } (.name word (rest.head? = some '(')) word
    else
      match readNumber? (c :: cs) with
      | some (digits, rest) =>
        operand { s with rest } (.number (leadingNumber (.ofList digits))) (.ofList digits)
      | none =>
        let outputs := s.prints && s.parens = 0
        if outputs && c = '>' then
          let s := { s with prints := false }
          if cs.head? = some '>' then plain { s with rest := cs.drop 1 } (.output .appended) ">>"
          else plain { s with rest := cs } (.output .file) ">"
        else if outputs && c = '|' && cs.head? ≠ some '|' then
          plain { s with rest := cs, prints := false } (.output .command) "|"
        else
          match sign? (c :: cs) with
          | none => plain { s with rest := if c = '.' then cs.drop 1 else cs } (.stray c) ""
          | some (sign, rest) =>
            let s := if openSigns.contains sign then s.skipLines rest else { s with rest }
            match sign with
            | "(" => plain { s with parens := s.parens + 1 } (.sign sign) sign
            | ")" =>
              if s.parens = 0 then (none, { s with complaints := inLine here "extra ')'" :: s.complaints })
              else operand { s with parens := s.parens - 1 } (.sign sign) sign
            | ";" =>
              some' (({ s with prints := false, afterOperand := false, afterStatement := true }).give here
                (.sign sign) sign)
            | _ =>
              if ["]", "++", "--"].contains sign then operand s (.sign sign) sign
              else plain s (.sign sign) sign

/-- All lexemes of the rest of a program; at most `fuel`. -/
def all : (fuel : Nat) → Cutting → List Lexeme
  | 0, s => [(s.give s.line .finish "end of file").1]
  | fuel + 1, s =>
    match s.next with
    | (none, s) => all fuel s
    | (some l, s) =>
      match l.token with
      | .finish => [l]
      | .fault _ => [l]
      | _ => l :: all fuel s

end Cutting

/-- The lexemes of a program. -/
def lexemes (text : String) : List Lexeme :=
  let start : Cutting := { rest := [] }
  (start.skipLines (text.toList ++ ['\n'])).all (2 * text.length + 4)

end CommandSpec.Utility.Rules
