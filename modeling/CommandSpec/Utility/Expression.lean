import CommandSpec.Regex.Search
import CommandSpec.Text.Integer
import CommandSpec.Utility.Arguments

/-!
# `expr`

`expr` evaluates an expression whose operands and operators are its arguments. A value is a text; one
that looks like an integer counts as that, and integers may be as great as they like. An operand that is
not needed is read but not evaluated.
-/

namespace CommandSpec.Utility

/-- What can be wrong with an expression. -/
inductive ExpressionFault where
  | missingAfter (last : String)
  | unclosedAfter (last : String)
  | unclosedBefore (next : String)
  | strayClose
  | unexpected (argument : String)
  | noInteger
  | zeroDivision
  | badPattern (fault : RegexFault)
  deriving DecidableEq, Repr

/-- The complaint about an expression. -/
def ExpressionFault.message : ExpressionFault → String
  | missingAfter last => "syntax error: missing argument after " ++ inQuotes last
  | unclosedAfter last => "syntax error: expecting ')' after " ++ inQuotes last
  | unclosedBefore next => "syntax error: expecting ')' instead of " ++ inQuotes next
  | strayClose => "syntax error: unexpected ')'"
  | unexpected argument => "syntax error: unexpected argument " ++ inQuotes argument
  | noInteger => "non-integer argument"
  | zeroDivision => "division by zero"
  | badPattern fault => fault.message

/-- Arguments that are still to be read, and the one before them. -/
structure ExpressionArguments where
  last : String := ""
  rest : List String
  deriving Inhabited

namespace ExpressionArguments

/-- Take the next argument if it is one of some words. -/
def takeWord? (words : List String) (a : ExpressionArguments) : Option (String × ExpressionArguments) :=
  match a.rest with
  | word :: rest => if words.contains word then some (word, ⟨word, rest⟩) else none
  | [] => none

end ExpressionArguments

/-! ## Values -/

/-- The integer that a value is, if it looks like one. -/
def integerValue? (value : String) : Option Int :=
  match value.toList with
  | '+' :: _ => none
  | cs => Text.readInteger? cs

/-- Whether a value counts as false: the empty text, and zero however it is written. -/
def isFalseValue (value : String) : Bool :=
  match value.toList with
  | [] => true
  | ['-'] => false
  | '-' :: cs => cs.all (· = '0')
  | cs => cs.all (· = '0')

/-- A truth value as an integer. -/
def truth (b : Bool) : String :=
  if b then "1" else "0"

/-- The value of a comparison: of integers if both operands are, else of texts. -/
def compareValues (operator a b : String) : String :=
  let order : Ordering := match integerValue? a, integerValue? b with
    | some m, some n => compare m n
    | _, _ => if a < b then .lt else if a = b then .eq else .gt
  truth (match operator with
    | "<" => order = .lt
    | "<=" => order ≠ .gt
    | ">" => order = .gt
    | ">=" => order ≠ .lt
    | "!=" => order ≠ .eq
    | _ => order = .eq)

/-- The value of an operation on integers. -/
def calculate (operator a b : String) : Except ExpressionFault String :=
  match integerValue? a, integerValue? b with
  | some m, some n =>
    if (operator = "/" || operator = "%") && n = 0 then .error .zeroDivision
    else .ok (toString (match operator with
      | "+" => m + n
      | "-" => m - n
      | "*" => m * n
      | "/" => m.tdiv n
      | _ => m.tmod n))
  | _, _ => .error .noInteger

/-- The value of a match at the start of a text: what the first group takes, or else how many
characters match. -/
def matchValue (text pattern : String) : Except ExpressionFault String := do
  let p ← (Regex.Pattern.ofText {} pattern.toList).mapError ExpressionFault.badPattern
  let found := p.matchAt {} text.toList 0
  let taken (n : Nat) : List Char := found.elim [] fun m => m.textOf text.toList n
  return if p.groupCount > 0 then .ofList (taken 1) else toString (taken 0).length

/-- The part of a text from a position on, counted from one. -/
def partValue (charset : Charset) (text position length : String) : String :=
  match integerValue? position, integerValue? length with
  | some p, some n =>
    if p ≤ 0 || n ≤ 0 then ""
    else
      let parts := ((charset.parts text.toList).drop (p.toNat - 1)).take n.toNat
      .ofList (parts.flatMap charset.bytesOf)
  | _, _ => ""

/-- The position of the first character of a text that is one of some characters, or zero. -/
def positionValue (charset : Charset) (text characters : String) : String :=
  let wanted := charset.parts characters.toList
  let parts := charset.parts text.toList
  toString (((parts.findIdx? wanted.contains).map (· + 1)).getD 0)

/-! ## Evaluation -/

/-- The operators of a level; those of a higher one bind more tightly. -/
def levelOperators : Nat → List String
  | 0 => ["|"]
  | 1 => ["&"]
  | 2 => ["<", "<=", "=", "==", "!=", ">=", ">"]
  | 3 => ["+", "-"]
  | 4 => ["*", "/", "%"]
  | _ => [":"]

/-- Whether the second operand matters when the first one has a value. -/
def needsSecond (operator value : String) : Bool :=
  match operator with
  | "|" => isFalseValue value
  | "&" => !isFalseValue value
  | _ => true

/-- The value of an operation. -/
def operate (operator a b : String) : Except ExpressionFault String :=
  match operator with
  | "|" => .ok (if !isFalseValue a then a else if isFalseValue b then "0" else b)
  | "&" => .ok (if isFalseValue a || isFalseValue b then "0" else a)
  | ":" => matchValue a b
  | _ =>
    if (levelOperators 2).contains operator then .ok (compareValues operator a b)
    else calculate operator a b

/-- A reader of a part of an expression: its value, and the arguments after it. -/
abbrev ExpressionReader := Except ExpressionFault (String × ExpressionArguments)

mutual

/-- The value of an expression of a level. -/
def readLevel (charset : Charset) : (fuel level : Nat) → (counts : Bool) → ExpressionArguments → ExpressionReader
  | 0, _, _, a => .error (.missingAfter a.last)
  | fuel + 1, level, counts, a => do
    if level > 5 then readOperand charset fuel counts a
    else
      let (value, a) ← readLevel charset fuel (level + 1) counts a
      readMore charset fuel level counts value a

/-- The value of an expression whose first operand was read. -/
def readMore (charset : Charset) : (fuel level : Nat) → (counts : Bool) → (value : String) →
    ExpressionArguments → ExpressionReader
  | 0, _, _, value, a => .ok (value, a)
  | fuel + 1, level, counts, value, a =>
    match a.takeWord? (levelOperators level) with
    | none => .ok (value, a)
    | some (operator, a) => do
      let needed := counts && needsSecond operator value
      let (second, a) ← readLevel charset fuel (level + 1) needed a
      let value ← if counts then operate operator value second else pure value
      readMore charset fuel level counts value a

/-- The value of an operand: an argument, an expression in parentheses or a function call. -/
def readOperand (charset : Charset) : (fuel : Nat) → (counts : Bool) → ExpressionArguments → ExpressionReader
  | 0, _, a => .error (.missingAfter a.last)
  | fuel + 1, counts, a => do
    let operand := readOperand charset fuel counts
    match a.takeWord? ["+", "length", "match", "index", "substr", "(", ")"] with
    | some ("+", a) =>
      match a.rest with
      | [] => throw (.missingAfter a.last)
      | value :: rest => return (value, ⟨value, rest⟩)
    | some ("length", a) =>
      let (text, a) ← operand a
      return (toString (charset.parts text.toList).length, a)
    | some ("match", a) =>
      let (text, a) ← operand a
      let (pattern, a) ← operand a
      return (← if counts then matchValue text pattern else pure text, a)
    | some ("index", a) =>
      let (text, a) ← operand a
      let (characters, a) ← operand a
      return (positionValue charset text characters, a)
    | some ("substr", a) =>
      let (text, a) ← operand a
      let (position, a) ← operand a
      let (length, a) ← operand a
      return (partValue charset text position length, a)
    | some ("(", a) =>
      let (value, a) ← readLevel charset fuel 0 counts a
      match a.rest with
      | [] => throw (.unclosedAfter a.last)
      | ")" :: rest => return (value, ⟨")", rest⟩)
      | next :: _ => throw (.unclosedBefore next)
    | some (_, _) => throw .strayClose
    | none =>
      match a.rest with
      | [] => throw (.missingAfter a.last)
      | value :: rest => return (value, ⟨value, rest⟩)

end

/-- The value of an expression that takes all arguments. -/
def evaluateExpression (charset : Charset) (args : List String) : Except ExpressionFault String := do
  let (value, a) ← readLevel charset (10 * args.length + 20) 0 true { rest := args }
  match a.rest with
  | [] => return value
  | argument :: _ => throw (.unexpected argument)

/-- Write the value of an expression: 0 if it counts as true, else 1. -/
def expr (args : List String) : Task Nat := do
  match if args.head? = some "--" then args.tail else args with
  | [] => misuse "missing operand" 2
  | ["--help"] =>
    Task.printLine ("Usage: " ++ (← read).speaker ++ " EXPRESSION")
    return 0
  | args =>
    match evaluateExpression (← read).charset args with
    | .error e =>
      Task.complain e.message
      return 2
    | .ok value =>
      Task.printLine value
      return if isFalseValue value then 1 else 0

end CommandSpec.Utility
