import CommandSpec.Utility.Rules.Search

/-!
# Reading rules

A program is read from its tokens. What a name stands for is settled where it is used first: as a
variable, a table or a function. A name that is handed to a function as it is may stand for either of
the first two. Some complaints let the reader go on; any of them keeps the program from being run.

The operators are read by levels, from the one that binds least. At each level a reader for the levels
above it is used, so that only the number of steps is counted down.
-/

namespace CommandSpec.Utility.Rules

/-- What a name stands for. -/
inductive NameKind where
  | scalar
  | table
  | routine
  deriving DecidableEq, Repr, Inhabited

/-- The variables that every program has. -/
def ownVariables : List (String × NameKind) :=
  (["NF", "NR", "FNR", "FS", "OFS", "RS", "ORS", "FILENAME", "SUBSEP", "RSTART", "RLENGTH", "CONVFMT", "OFMT",
    "ARGC"].map fun n => (n, .scalar)) ++ [("ENVIRON", .table), ("ARGV", .table)]

/-- A call of a function. -/
structure CallNote where
  name : String
  arguments : Nat
  line : Nat
  deriving Inhabited

/-- A program that is being read. -/
structure Draft where
  lexemes : List Lexeme
  kinds : List (String × NameKind) := ownVariables
  /-- The function that is being read, with its parameters. -/
  routine : Option String := none
  parameters : List (String × Option NameKind) := []
  /-- Whether records are read where the reader is. -/
  inRule : Bool := false
  calls : List CallNote := []
  /-- Complaints, the latest first. -/
  complaints : List String := []
  /-- How many open parentheses are part of something that was given up. -/
  lostParens : Nat := 0
  /-- What was read, the latest first. -/
  found : Ruleset := {}
  deriving Inhabited

/-- How far what is wrong reaches. -/
inductive Setback where
  /-- What comes after the statement can be read. -/
  | statement
  | program
  deriving DecidableEq, Repr, Inhabited

/-- A part of what a reader does. What is wrong is kept in the draft. -/
abbrev Read := ExceptT Setback (StateM Draft)

namespace Read

/-- The lexeme after those that are there. -/
def lastLexeme : Lexeme :=
  { token := .finish, line := 0, shown := "end of file", parens := 0, braces := 0 }

/-- The next lexeme. -/
def peek : Read Lexeme := do
  return (← get).lexemes.head?.getD lastLexeme

/-- Complain and go on. -/
def complain (complaint : String) : Read Unit :=
  modify fun d => { d with complaints := complaint :: d.complaints }

/-- Complain about the line of the next lexeme and go on. -/
def complainHere (complaint : String) : Read Unit := do
  complain (Cutting.inLine (← peek).line complaint)

/-- Complain and give up the program. -/
def fail {α : Type} (complaint : String) : Read α := do
  complain complaint
  throw .program

/-- Whether a token ends a statement or the program. -/
def endsStatement : Token → Bool
  | .finish => true
  | .newline => true
  | .sign s => s = ";" || s = "\x7d"
  | _ => false

/-- Complain about the next lexeme and give up the statement. -/
def unexpected {α : Type} : Read α := do
  let l ← peek
  let isOpen := l.parens > (← get).lostParens
  modify fun d => { d with lostParens := l.parens }
  match l.token with
  | .fault complaint => fail complaint
  | .stray c =>
    complain (toString l.line ++ ": unexpected character '" ++ c.toString ++ "'")
    throw .statement
  | token =>
    let isLast : Bool := match token with
      | .finish => true
      | _ => false
    let missing (sign : String) : Read α := do
      complain (Cutting.inLine l.line ("missing " ++ sign ++ " near " ++ l.shown))
      throw .statement
    if isOpen && endsStatement token then missing ")"
    else if isLast && l.braces > 0 then missing "\x7d"
    else
      complain (Cutting.inLine l.line ("syntax error at or near " ++ l.shown))
      throw .statement

/-- Note the complaints about what stands before the next lexeme. -/
def noteSkipped : Read Unit := do
  for complaint in (← peek).complaints do complain complaint

/-- Go on to the lexeme after the next one. -/
def advance : Read Unit := do
  modify fun d => { d with lexemes := d.lexemes.drop 1 }
  noteSkipped

/-- Whether the next token is a sign. -/
def isAt (sign : String) : Read Bool := do
  match (← peek).token with
  | .sign s => return s = sign
  | _ => return false

/-- Whether the next token is a keyword. -/
def isAtWord (word : String) : Read Bool := do
  match (← peek).token with
  | .keyword s => return s = word
  | _ => return false

/-- Pass over a sign if it comes next: whether it did. -/
def skip (sign : String) : Read Bool := do
  let found ← isAt sign
  if found then advance
  return found

/-- Pass over a sign that must come next. -/
def expect (sign : String) : Read Unit := do
  if !(← skip sign) then unexpected

/-- Pass over newlines, of which there are at most `fuel`. -/
def skipNewlines : (fuel : Nat) → Read Unit
  | 0 => pure ()
  | fuel + 1 => do
    match (← peek).token with
    | .newline =>
      advance
      skipNewlines fuel
    | _ => pure ()

/-- Pass over all newlines. -/
def newlines : Read Unit := do
  skipNewlines (← get).lexemes.length

/-- Pass over what ends a statement. -/
def separator : Read Unit := do
  match (← peek).token with
  | .newline => newlines
  | .sign ";" =>
    advance
    newlines
  | _ => unexpected

/-! ## Names -/

/-- A name as a parameter with its place, if it is one. -/
def parameter? (name : String) : Read (Option (Nat × Option NameKind)) := do
  let parameters := (← get).parameters
  match parameters.findIdx? (·.1 = name) with
  | none => return none
  | some i => return some (i, (parameters[i]?).bind Prod.snd)

/-- What a name stands for, if that is settled. -/
def kind? (name : String) : Read (Option NameKind) := do
  match ← parameter? name with
  | some (_, kind) => return kind
  | none => return (← get).kinds.lookup name

/-- A name as a variable, whatever it stands for. -/
def refer (name : String) : Read Variable := do
  match ← parameter? name with
  | some (i, _) => return .parameter i
  | none => return .common name

/-- A name as a variable that stands for something. -/
def settle (name : String) (kind : NameKind) : Read Variable := do
  match ← kind? name with
  | none =>
    modify fun d =>
      if d.parameters.any (·.1 = name) then
        { d with parameters := d.parameters.map fun p => if p.1 = name then (name, some kind) else p }
      else { d with kinds := (name, kind) :: d.kinds }
  | some old =>
    if old ≠ kind then
      let word := match old with
        | .scalar => "variable "
        | .table => "array "
        | .routine => "function "
      complainHere ("illegal reference to " ++ word ++ name)
  refer name

/-- Pass over what is left of a statement that was given up, and what ends it; at most `fuel` tokens. -/
def giveUp : (fuel : Nat) → Read Unit
  | 0 => throw .program
  | fuel + 1 => do
    let l ← peek
    modify fun d => { d with lostParens := max d.lostParens l.parens }
    match l.token with
    | .finish => throw .program
    | .fault complaint => fail complaint
    | .newline => newlines
    | .sign ";" => separator
    | _ =>
      advance
      giveUp fuel

/-- The name that must come next. -/
def name : Read String := do
  match (← peek).token with
  | .name s _ =>
    advance
    return s
  | _ => unexpected

end Read

/-! ## Expressions -/

/-- Readers for the parts of a program. -/
structure Reader where
  /-- An expression with the operators of a level and those above it. -/
  level : Nat → Read Expression
  /-- What follows an expression at a level. -/
  more : Nat → Expression → Read Expression
  /-- What follows some expressions, the latest first, with commas between them. -/
  list : List Expression → Read (List Expression)
  /-- A statement, in a loop or not. -/
  statement : Bool → Read Statement
  /-- Statements after some others, the latest first, up to a closing brace. -/
  statements : Bool → List Statement → Read (List Statement)

namespace Reader

/-- The level of conditions. -/
def conditionLevel : Nat := 0

/-- The level at which keys are looked for. -/
def keyLevel : Nat := 3

/-- The level at which texts are searched. -/
def matchLevel : Nat := 4

/-- The level at which texts are joined. -/
def joinLevel : Nat := 6

/-- The level of signs before an operand. -/
def signLevel : Nat := 9

/-- The level at which the output of commands is read. -/
def commandLevel : Nat := 10

/-- The level of powers. -/
def powerLevel : Nat := 11

/-- The level of steps after a place. -/
def stepLevel : Nat := 12

/-- A whole expression. -/
def expression (g : Reader) : Read Expression :=
  g.level conditionLevel

/-- The operator that a sign is at a level. -/
def operator? (level : Nat) (sign : String) : Option (Expression → Expression → Expression) :=
  match level, sign with
  | 1, "||" => some .either
  | 2, "&&" => some .both
  | 4, "~" => some fun a b => .matching a b false
  | 4, "!~" => some fun a b => .matching a b true
  | 5, "<" => some (.relation .less)
  | 5, "<=" => some (.relation .atMost)
  | 5, "==" => some (.relation .equal)
  | 5, "!=" => some (.relation .unequal)
  | 5, ">=" => some (.relation .atLeast)
  | 5, ">" => some (.relation .greater)
  | 7, "+" => some (.arithmetic .add)
  | 7, "-" => some (.arithmetic .subtract)
  | 8, "*" => some (.arithmetic .multiply)
  | 8, "/" => some (.arithmetic .divide)
  | 8, "%" => some (.arithmetic .remainder)
  | _, _ => none

/-- The operation of an assignment, if a sign is one. -/
def assignment? : String → Option (Option Arithmetic)
  | "=" => some none
  | "+=" => some (some .add)
  | "-=" => some (some .subtract)
  | "*=" => some (some .multiply)
  | "/=" => some (some .divide)
  | "%=" => some (some .remainder)
  | "^=" => some (some .power)
  | _ => none

/-- Whether a token can start an operand that is joined to another one. -/
def startsOperand : Token → Bool
  | .number _ => true
  | .text _ => true
  | .regex _ => true
  | .name .. => true
  | .function _ => true
  | .keyword "getline" => true
  | .sign s => ["(", "$", "!", "++", "--"].contains s
  | _ => false

/-- The pattern that a text is. -/
def readRegex (cs : List Char) (line : Nat) : Read Expression := do
  match readPattern cs with
  | .ok p => return .regex p
  | .error complaint => Read.fail (Cutting.inLine line complaint)

/-- An expression that is searched for; a text is made ready for it at once. -/
def asSearched (e : Expression) : Read Expression := do
  match e with
  | .text s => readRegex s.toList (← Read.peek).line
  | e => return e

/-- Whether a place comes next. -/
def startsPlace : Read Bool := do
  match (← Read.peek).token with
  | .sign "$" => return true
  | .name s opens => return (!opens || (← Read.parameter? s).isSome) && (← Read.kind? s) ≠ some .routine
  | _ => return false

/-- A place that must come next. -/
def readPlace (g : Reader) : Read Place := do
  if !(← startsPlace) then Read.unexpected
  match ← g.level (stepLevel + 1) with
  | .place p => return p
  | _ => Read.unexpected

/-- What follows an expression at a level. -/
def readMore (g : Reader) (level : Nat) (e : Expression) : Read Expression := do
  let token := (← Read.peek).token
  if level = keyLevel then
    if !(← Read.isAtWord "in") then return e
    Read.advance
    g.more level (.isKey [e] (← Read.settle (← Read.name) .table))
  else if level = joinLevel then
    if !startsOperand token then return e
    let next ← g.level (level + 1)
    g.more level (.concat e next)
  else if level = commandLevel then
    if !(← Read.skip "|") then return e
    if !(← Read.isAtWord "getline") then Read.unexpected
    Read.advance
    let target ← readTarget
    g.more level (.getline .command (some e) target)
  else
    match token with
    | .sign s =>
      match operator? level s with
      | none => return e
      | some op =>
        Read.advance
        let next ← g.level (level + 1)
        let next ← if level = matchLevel then asSearched next else pure next
        g.more level (op e next)
    | _ => return e
where
  /-- The place that a record is put into, if one comes next. -/
  readTarget : Read (Option Place) := do
    if ← startsPlace then return some (← readPlace g) else return none

/-- Expressions in parentheses, or none. -/
def readGroup (g : Reader) : Read (List Expression) := do
  Read.expect "("
  if ← Read.skip ")" then return []
  let found ← g.list []
  Read.expect ")"
  return found

/-- What follows some expressions with commas between them. -/
def readList (g : Reader) (soFar : List Expression) : Read (List Expression) := do
  let e ← g.expression
  if ← Read.skip "," then g.list (e :: soFar) else return (e :: soFar).reverse

/-- The name that comes next, if it is handed over as it is. -/
def bareName? : Read (Option String) := do
  match (← get).lexemes with
  | { token := .name s _, .. } :: { token := .sign next, .. } :: _ =>
    let settled ← Read.kind? s
    return if (next = "," || next = ")") && settled ≠ some .routine then some s else none
  | _ => return none

/-- An argument of a function, which may be a name as it is. -/
def readArgument (g : Reader) : Read Expression := do
  match ← bareName? with
  | some name =>
    Read.advance
    return .place (.plain (← Read.refer name))
  | none => g.expression

/-- Arguments after the opening parenthesis; at most `fuel`. -/
def readArguments (g : Reader) : (fuel : Nat) → Read (List Expression)
  | 0 => Read.unexpected
  | fuel + 1 => do
    let e ← readArgument g
    if ← Read.skip "," then return e :: (← readArguments g fuel)
    Read.expect ")"
    return [e]

/-- A call of a function of the program. -/
def readCall (g : Reader) (name : String) (line : Nat) : Read Expression := do
  Read.expect "("
  let args ← if ← Read.skip ")" then pure [] else readArguments g ((← get).lexemes.length)
  modify fun d => { d with calls := ⟨name, args.length, line⟩ :: d.calls }
  return .call name args

/-- What starts with a name. -/
def readName (g : Reader) (name : String) (opens : Bool) (line : Nat) : Read Expression := do
  Read.advance
  let kind ← Read.kind? name
  let isParameter := (← Read.parameter? name).isSome
  if kind = some .routine || (opens && kind.isNone && !isParameter) then readCall g name line
  else if ← Read.isAt "[" then
    let table ← Read.settle name .table
    Read.advance
    let keys ← g.list []
    Read.expect "]"
    return .place (.element table keys)
  else return .place (.plain (← Read.settle name .scalar))

/-- How many arguments a function takes at least and at most. -/
def argumentCounts : Function → Nat × Nat
  | .length => (0, 1)
  | .index => (2, 2)
  | .substring => (2, 3)
  | .split => (2, 3)
  | .substitute _ => (2, 3)
  | .format => (1, 255)
  | .arctangent => (2, 2)
  | .random => (0, 0)
  | .seed => (0, 1)
  | .flush => (0, 1)
  | .time => (0, 0)
  | .timeText => (0, 3)
  | _ => (1, 1)

/-- An expression that is searched for. -/
def readSearched (g : Reader) : Read Expression := do
  asSearched (← g.expression)

/-- A function that every program has, with its arguments. -/
def readFunction (g : Reader) (f : Function) (shown : String) : Read Expression := do
  Read.advance
  match f with
  | .length =>
    if !(← Read.skip "(") then return .apply f []
    if ← Read.skip ")" then return .apply f []
    let e ← readArgument g
    Read.expect ")"
    return .apply f [e]
  | .split =>
    Read.expect "("
    let text ← g.expression
    Read.expect ","
    let table ← Read.settle (← Read.name) .table
    let separator ← if ← Read.skip "," then
        match ← g.expression with
        | .text s => pure [← if s.length > 1 then asSearched (.text s) else pure (.text s)]
        | e => pure [e]
      else pure []
    Read.expect ")"
    return .apply f (text :: .place (.plain table) :: separator)
  | .substitute _ =>
    Read.expect "("
    let regex ← readSearched g
    Read.expect ","
    let replacement ← g.expression
    let target ← if ← Read.skip "," then pure [Expression.place (← readPlace g)] else pure []
    Read.expect ")"
    return .apply f (regex :: replacement :: target)
  | .find =>
    Read.expect "("
    let text ← g.expression
    Read.expect ","
    let regex ← readSearched g
    Read.expect ")"
    return .apply f [text, regex]
  | _ =>
    let line := (← Read.peek).line
    let args ← readGroup g
    let (least, most) := argumentCounts f
    if args.length < least || most < args.length then
      Read.complain (Cutting.inLine line ("wrong number of arguments in call to " ++ shown))
    return .apply f args

/-- An operand. -/
def readOperand (g : Reader) : Read Expression := do
  let l ← Read.peek
  match l.token with
  | .number x =>
    Read.advance
    return .number x
  | .text s =>
    Read.advance
    return .text s
  | .regex cs =>
    Read.advance
    readRegex cs l.line
  | .name s opens => readName g s opens l.line
  | .function f => readFunction g f l.shown
  | .keyword "getline" =>
    Read.advance
    let target ← readMore.readTarget g
    if ← Read.skip "<" then
      let source ← g.level powerLevel
      return .getline .file (some source) target
    return .getline .main none target
  | .sign "(" =>
    match ← readGroup g with
    | [e] => return e
    | [] => Read.unexpected
    | es =>
      if !(← Read.isAtWord "in") then Read.unexpected
      Read.advance
      return .isKey es (← Read.settle (← Read.name) .table)
  | .sign "$" =>
    Read.advance
    return .place (.field (← readIndex))
  | .sign "++" =>
    Read.advance
    return .step (← readPlace g) 1 true
  | .sign "--" =>
    Read.advance
    return .step (← readPlace g) (-1) true
  | _ => Read.unexpected
where
  /-- The index of a field. -/
  readIndex : Read Expression := do
    let isSigned ← match (← Read.peek).token with
      | .sign s => pure (["-", "+", "!"].contains s)
      | _ => pure false
    g.level (if isSigned then signLevel else stepLevel + 1)

/-- An expression with a sign before it, or without. -/
def readSigned (g : Reader) : Read Expression := do
  match (← Read.peek).token with
  | .sign "!" =>
    Read.advance
    return .negation (← g.level signLevel)
  | .sign "-" =>
    Read.advance
    return .signed true (← g.level signLevel)
  | .sign "+" =>
    Read.advance
    return .signed false (← g.level signLevel)
  | _ => g.level (signLevel + 1)

/-- An expression with an exponent, or without. -/
def readPower (g : Reader) : Read Expression := do
  let base ← g.level (powerLevel + 1)
  if !(← Read.skip "^") then return base
  let isSigned ← match (← Read.peek).token with
    | .sign s => pure (["-", "+", "!"].contains s)
    | _ => pure false
  return .arithmetic .power base (← g.level (if isSigned then signLevel else powerLevel))

/-- A place with a step after it, or an operand. -/
def readStepped (g : Reader) : Read Expression := do
  let isGroup ← Read.isAt "("
  match ← g.level (stepLevel + 1), isGroup with
  | .place p, false =>
    if ← Read.skip "++" then return .step p 1 false
    if ← Read.skip "--" then return .step p (-1) false
    return .place p
  | e, _ => return e

/-- Texts to be joined, or an assignment. -/
def readJoined (g : Reader) : Read Expression := do
  let isGroup ← Read.isAt "("
  let first ← g.level (joinLevel + 1)
  match first, (← Read.peek).token, isGroup with
  | .place p, .sign s, false =>
    match assignment? s with
    | some op =>
      Read.advance
      return .assign p op (← g.expression)
    | none => g.more joinLevel first
  | _, _, _ => g.more joinLevel first

/-- An expression with the operators of a level and those above it. -/
def readLevel (g : Reader) (level : Nat) : Read Expression := do
  if level = conditionLevel then
    let c ← g.level 1
    if !(← Read.skip "?") then return c
    let yes ← g.expression
    Read.expect ":"
    return .choice c yes (← g.expression)
  else if level = joinLevel then readJoined g
  else if level = signLevel then readSigned g
  else if level = powerLevel then readPower g
  else if level = stepLevel then readStepped g
  else if stepLevel < level then readOperand g
  else g.more level (← g.level (level + 1))

/-! ## Statements -/

/-- Whether a token ends what `print` is given. -/
def endsPrint : Token → Bool
  | .newline => true
  | .output _ => true
  | .sign s => s = ";"
  | _ => false

/-- What `print` is given: expressions in parentheses or not. -/
def readPrinted (g : Reader) : Read (List Expression) := do
  if endsPrint (← Read.peek).token then return []
  let plain : Read (List Expression) := g.list []
  if !(← Read.isAt "(") then plain
  else
    let start ← get
    let grouped : Read (List Expression) := do
      let es ← readGroup g
      if es.length ≥ 2 && endsPrint (← Read.peek).token then return es
      throw .statement
    try grouped
    catch _ =>
      set start
      plain

/-- Where output is sent, if not to the standard output. -/
def readOutput (g : Reader) : Read (Option (Drain × Expression)) := do
  match (← Read.peek).token with
  | .output d =>
    Read.advance
    return some (d, ← g.expression)
  | _ => return none

/-- A condition in parentheses, and the newlines after it. -/
def readCondition (g : Reader) : Read Expression := do
  Read.expect "("
  let c ← g.expression
  Read.expect ")"
  return c

/-- An expression that may be missing before a sign, which is passed over. -/
def readOptional (g : Reader) (sign : String) : Read (Option Expression) := do
  if ← Read.skip sign then return none
  let e ← g.expression
  Read.expect sign
  return some e

/-- A loop after its keyword. -/
def readFor (g : Reader) : Read Statement := do
  Read.expect "("
  match (← get).lexemes with
  | { token := .name v _, .. } :: { token := .keyword "in", .. } :: { token := .name t _, .. }
      :: { token := .sign ")", .. } :: _ =>
    let v ← Read.settle v .scalar
    let t ← Read.settle t .table
    for _ in List.range 4 do Read.advance
    Read.newlines
    return .forKeys (.plain v) t (← g.statement true)
  | _ =>
    let start ← readOptional g ";"
    let condition ← readOptional g ";"
    let after ← readOptional g ")"
    Read.newlines
    let body ← g.statement true
    let loop := Statement.forLoop condition (after.getD (.number 0)) body
    return match start with
      | none => loop
      | some e => .block [.expression e, loop]

/-- A statement that a keyword starts. -/
def readKeyword (g : Reader) (inLoop : Bool) (word : String) : Read Statement := do
  let ended (s : Statement) : Read Statement := do
    Read.separator
    return s
  let optional : Read (Option Expression) := do
    let token := (← Read.peek).token
    if endsPrint token then return none
    return some (← g.expression)
  match word with
  | "print" =>
    Read.advance
    let args ← readPrinted g
    let target ← readOutput g
    ended (.print args target)
  | "printf" =>
    Read.advance
    let args ← readPrinted g
    if args.isEmpty then Read.complainHere "no arguments in call to printf"
    let target ← readOutput g
    ended (.printFormat args target)
  | "if" =>
    Read.advance
    let c ← readCondition g
    Read.newlines
    let yes ← g.statement inLoop
    if !(← Read.isAtWord "else") then return .choice c yes .nothing
    Read.advance
    return .choice c yes (← g.statement inLoop)
  | "while" =>
    Read.advance
    let c ← readCondition g
    Read.newlines
    return .whileLoop c (← g.statement true)
  | "do" =>
    Read.advance
    let body ← g.statement true
    if !(← Read.isAtWord "while") then Read.unexpected
    Read.advance
    let c ← readCondition g
    ended (.doLoop body c)
  | "for" =>
    Read.advance
    readFor g
  | "break" =>
    if !inLoop then Read.complainHere "break statement outside of loop"
    Read.advance
    ended .stop
  | "continue" =>
    if !inLoop then Read.complainHere "continue statement outside of loop"
    Read.advance
    ended .again
  | "next" =>
    if !(← get).inRule then Read.complainHere "improper use of next"
    Read.advance
    ended .next
  | "nextfile" =>
    if !(← get).inRule then Read.complainHere "improper use of nextfile"
    Read.advance
    ended .nextFile
  | "exit" =>
    Read.advance
    let status ← optional
    ended (.exit status)
  | "return" =>
    if (← get).routine.isNone then Read.complainHere "return outside function body"
    Read.advance
    let value ← optional
    ended (.leave value)
  | "delete" =>
    Read.advance
    let table ← Read.settle (← Read.name) .table
    let keys ← if ← Read.skip "[" then do
        let keys ← g.list []
        Read.expect "]"
        pure keys
      else pure []
    ended (.delete table keys)
  | "getline" =>
    let e ← g.expression
    ended (.expression e)
  | _ => Read.unexpected

/-- A statement without anything wrong. -/
def readSound (g : Reader) (inLoop : Bool) : Read Statement := do
  match (← Read.peek).token with
  | .sign ";" =>
    Read.separator
    return .nothing
  | .sign "\x7b" =>
    Read.advance
    return .block (← g.statements inLoop [])
  | .keyword word => readKeyword g inLoop word
  | _ =>
    let e ← g.expression
    Read.separator
    return .expression e

/-- A statement; one with something wrong is given up. -/
def readStatement (g : Reader) (inLoop : Bool) : Read Statement := do
  try readSound g inLoop
  catch
    | .statement =>
      Read.giveUp (← get).lexemes.length
      return .nothing
    | .program => throw .program

/-- Statements after some others, up to a closing brace. -/
def readStatements (g : Reader) (inLoop : Bool) (soFar : List Statement) : Read (List Statement) := do
  if ← Read.skip "\x7d" then return soFar.reverse
  let s ← g.statement inLoop
  g.statements inLoop (s :: soFar)

/-- Readers that go on for so many steps. -/
def ofFuel : (fuel : Nat) → Reader
  | 0 =>
    { level := fun _ => Read.unexpected
      more := fun _ _ => Read.unexpected
      list := fun _ => Read.unexpected
      statement := fun _ => Read.unexpected
      statements := fun _ _ => Read.unexpected }
  | fuel + 1 =>
    { level := fun n => readLevel (ofFuel fuel) n
      more := fun n e => readMore (ofFuel fuel) n e
      list := fun es => readList (ofFuel fuel) es
      statement := fun inLoop => readStatement (ofFuel fuel) inLoop
      statements := fun inLoop ss => readStatements (ofFuel fuel) inLoop ss }

/-! ## Programs -/

/-- A block that must come next. -/
def readBlock (g : Reader) : Read Statement := do
  if !(← Read.isAt "\x7b") then Read.unexpected
  g.statement false

/-- The parameters of a function up to a closing parenthesis; at most `fuel`. -/
def readParameters (routine : String) : (fuel : Nat) → Read Unit
  | 0 => Read.unexpected
  | fuel + 1 => do
    if (← Read.peek).shown = routine then
      Read.complainHere "function parameter cannot be the function"
      Read.unexpected
    let name ← Read.name
    if (← get).parameters.any (·.1 = name) then Read.complainHere (name ++ " is duplicated in argument list")
    modify fun d => { d with parameters := d.parameters ++ [(name, none)] }
    if ← Read.skip "," then readParameters routine fuel else Read.expect ")"

/-- A function after its keyword. -/
def readRoutine (g : Reader) : Read Unit := do
  Read.advance
  let name ← Read.name
  match (← get).kinds.lookup name with
  | none => modify fun d => { d with kinds := (name, .routine) :: d.kinds }
  | some .routine => Read.complainHere ("redefinition of " ++ name)
  | some .scalar => Read.complainHere ("illegal reference to variable " ++ name)
  | some .table => Read.complainHere ("illegal reference to array " ++ name)
  Read.expect "("
  modify fun d => { d with routine := some name, parameters := [] }
  if !(← Read.skip ")") then readParameters name (← get).lexemes.length
  Read.newlines
  let body ← readBlock g
  modify fun d =>
    let parameters := d.parameters.map Prod.fst
    { d with
      routine := none, parameters := []
      found := { d.found with routines := { name, parameters, body } :: d.found.routines } }

/-- A rule with a condition, or without. -/
def readRule (g : Reader) : Read Unit := do
  modify fun d => { d with inRule := true }
  let condition ← if ← Read.isAt "\x7b" then pure Condition.every else do
      let first ← g.expression
      if ← Read.skip "," then pure (Condition.range first (← g.expression)) else pure (Condition.expression first)
  let action ← if ← Read.isAt "\x7b" then g.statement false else do
      Read.separator
      pure (Statement.print [] none)
  modify fun d =>
    { d with inRule := false, found := { d.found with rules := ⟨condition, action⟩ :: d.found.rules } }

/-- A rule or a function. -/
def readPart (g : Reader) : Read Unit := do
  match (← Read.peek).token with
  | .keyword "BEGIN" =>
    Read.advance
    let s ← readBlock g
    modify fun d => { d with found := { d.found with beginnings := s :: d.found.beginnings } }
  | .keyword "END" =>
    Read.advance
    let s ← readBlock g
    modify fun d => { d with found := { d.found with endings := s :: d.found.endings } }
  | .keyword "function" => readRoutine g
  | _ => readRule g

/-- A block after some tokens that are passed over; at most `fuel`. -/
def readNextBlock (g : Reader) : (fuel : Nat) → Read Unit
  | 0 => throw .program
  | fuel + 1 => do
    match (← Read.peek).token with
    | .finish => throw .program
    | .fault complaint => Read.fail complaint
    | .sign "\x7b" =>
      let _ ← g.statement false
    | _ =>
      Read.advance
      readNextBlock g fuel

/-- All rules and functions; at most `fuel`. Where one cannot be read the next block takes its place. -/
def readAll (g : Reader) : (fuel : Nat) → Read Unit
  | 0 => pure ()
  | fuel + 1 => do
    match (← Read.peek).token with
    | .finish => pure ()
    | _ =>
      try readPart g
      catch
        | .statement => readNextBlock g (← get).lexemes.length
        | .program => throw .program
      readAll g fuel

end Reader

/-- What is wrong with calls of functions. -/
def callComplaints (lastLine : Nat) (routines : List Routine) (calls : List CallNote) : List String :=
  calls.filterMap fun c =>
    match routines.find? (·.name = c.name) with
    | none => some (Cutting.inLine lastLine ("function " ++ c.name ++ " never defined"))
    | some r =>
      if r.parameters.length < c.arguments then
        some (Cutting.inLine c.line ("too many arguments in call to " ++ c.name))
      else none

/-- How many complaints there are at most. -/
def maxComplaints : Nat := 5

/-- How many steps reading a program may take. -/
def readingFuel (lexemes : List Lexeme) : Nat :=
  32 * lexemes.length + 64

/-- The program that a text is, or what is wrong with it. -/
def readProgram (text : String) : Except (List String) Ruleset :=
  let all := lexemes text
  let read : Read Unit := do
    Read.noteSkipped
    Reader.readAll (Reader.ofFuel (readingFuel all)) (all.length + 1)
  let draft := (read.run { lexemes := all }).2
  let complaints := draft.complaints.reverse.take maxComplaints
  let found := draft.found
  if !complaints.isEmpty then .error complaints
  else
    let lastLine := (all.getLast?.getD default).line
    match callComplaints lastLine found.routines draft.calls.reverse with
    | [] => .ok { found with beginnings := found.beginnings.reverse, rules := found.rules.reverse
                             endings := found.endings.reverse }
    | complaints => .error complaints

end CommandSpec.Utility.Rules
