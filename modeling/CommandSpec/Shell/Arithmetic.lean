import CommandSpec.Number
import CommandSpec.Shell.Syntax
import CommandSpec.Text.Integer

/-!
# Arithmetic expressions

Expressions are integers of 64 bits with the operators, precedences and assignments of C. An
expression is cut into tokens, parsed by precedence and evaluated; values that leave the range wrap
around.
-/

namespace CommandSpec.Shell.Arithmetic

/-- A token of an expression. -/
inductive Token where
  | number (n : Nat)
  | name (s : String)
  | operator (s : String)
  deriving DecidableEq, Repr, Inhabited

/-- An expression. -/
inductive Expr where
  | number (n : Int)
  | variable (name : String)
  | unary (operator : String) (e : Expr)
  | binary (operator : String) (a b : Expr)
  | conditional (test yes no : Expr)
  /-- An assignment, `name = e` or `name op= e`. -/
  | assign (name : String) (operator : Option String) (e : Expr)
  deriving Repr, Inhabited

/-- The operators, longer ones first. -/
def operators : List String :=
  ["<<=", ">>=", "||", "&&", "==", "!=", "<=", ">=", "<<", ">>", "+=", "-=", "*=", "/=", "%=",
    "&=", "|=", "^=", "+", "-", "*", "/", "%", "<", ">", "=", "!", "~", "&", "|", "^", "?", ":",
    "(", ")"]

/-- What is wrong with an expression. -/
inductive Flaw where
  | malformed (what : String)
  /-- A variable whose value is no number. -/
  | illegal (value : String)
  deriving DecidableEq, Repr, Inhabited

/-- The complaint about a flaw of an expression. -/
def Flaw.message (expression : String) : Flaw → String
  | malformed what => "arithmetic expression: " ++ what ++ ": \"" ++ expression ++ "\""
  | illegal value => "Illegal number: " ++ value

/-- The greatest number. -/
def greatest : Nat := 2 ^ 63 - 1

/-- The digits of a constant at the start of a text with the base they are in, which is 16 after `0x`,
8 after `0` and else 10; and how long the constant is. -/
def leadingConstant (cs : List Char) : Nat × Nat :=
  let read (base skipped : Nat) : Nat × Nat :=
    let digits := (cs.drop skipped).takeWhile (Text.isDigitIn base)
    (Text.numberIn base digits, skipped + digits.length)
  match cs with
  | '0' :: x :: d :: _ => if (x = 'x' || x = 'X') && Text.isDigitIn 16 d then read 16 2 else read 8 0
  | '0' :: _ => read 8 0
  | _ => read 10 0

/-- The tokens of an expression, of which a character that means nothing is one too; `fuel` bounds
their number. -/
def tokens : (fuel : Nat) → List Char → List Token
  | 0, _ => []
  | _ + 1, [] => []
  | fuel + 1, c :: cs =>
    if c = ' ' || c = '\t' || c = '\n' then tokens fuel cs
    else if c.isDigit then
      let (n, length) := leadingConstant (c :: cs)
      .number (min n greatest) :: tokens fuel ((c :: cs).drop length)
    else if isNameStart c then
      let word := (c :: cs).takeWhile isNameChar
      .name (.ofList word) :: tokens fuel ((c :: cs).drop word.length)
    else
      let op := (operators.find? fun op => op.toList.isPrefixOf (c :: cs)).getD c.toString
      .operator op :: tokens fuel ((c :: cs).drop op.length)

/-- The binary operators by precedence, loosest first. -/
def levels : List (List String) :=
  [["||"], ["&&"], ["|"], ["^"], ["&"], ["==", "!="], ["<", "<=", ">", ">="], ["<<", ">>"],
    ["+", "-"], ["*", "/", "%"]]

/-- The operator that an assignment applies, if it is one: `+` for `+=`. -/
def assignment? (op : String) : Option (Option String) :=
  if op = "=" then some none
  else if ["<<=", ">>=", "+=", "-=", "*=", "/=", "%=", "&=", "|=", "^="].contains op
  then some (some (.ofList op.toList.dropLast)) else none

mutual

/-- An expression with assignments. -/
def parse : (fuel : Nat) → List Token → Except Flaw (Expr × List Token)
  | 0, _ => .error (.malformed "expecting primary")
  | fuel + 1, ts =>
    let plain := parseConditional fuel ts
    match ts with
    | .name x :: .operator op :: rest =>
      match assignment? op with
      | some applied => do
        let (e, rest) ← parse fuel rest
        return (.assign x applied e, rest)
      | none => plain
    | _ => plain

/-- An expression with `?:`. -/
def parseConditional : (fuel : Nat) → List Token → Except Flaw (Expr × List Token)
  | 0, _ => .error (.malformed "expecting primary")
  | fuel + 1, ts => do
    let (test, rest) ← parseLevel fuel levels ts
    match rest with
    | .operator "?" :: rest =>
      let (yes, rest) ← parse fuel rest
      match rest with
      | .operator ":" :: rest =>
        let (no, rest) ← parseConditional fuel rest
        return (.conditional test yes no, rest)
      | _ => .error (.malformed "expecting ':'")
    | _ => return (test, rest)

/-- An expression with the operators of some levels. -/
def parseLevel : (fuel : Nat) → List (List String) → List Token → Except Flaw (Expr × List Token)
  | 0, _, _ => .error (.malformed "expecting primary")
  | fuel + 1, [], ts => parseUnary fuel ts
  | fuel + 1, ops :: tighter, ts => do
    let (left, rest) ← parseLevel fuel tighter ts
    parseMore fuel ops tighter left rest

/-- What follows the left operand of a level. -/
def parseMore : (fuel : Nat) → List String → List (List String) → Expr → List Token →
    Except Flaw (Expr × List Token)
  | 0, _, _, _, _ => .error (.malformed "expecting primary")
  | fuel + 1, ops, tighter, left, ts =>
    match ts with
    | .operator op :: rest =>
      if ops.contains op then do
        let (right, rest) ← parseLevel fuel tighter rest
        parseMore fuel ops tighter (.binary op left right) rest
      else .ok (left, ts)
    | _ => .ok (left, ts)

/-- A sign or negation, a constant, a variable or an expression in parentheses. -/
def parseUnary : (fuel : Nat) → List Token → Except Flaw (Expr × List Token)
  | 0, _ => .error (.malformed "expecting primary")
  | fuel + 1, ts =>
    match ts with
    | .number n :: rest => .ok (.number n, rest)
    | .name x :: rest => .ok (.variable x, rest)
    | .operator "(" :: rest => do
      let (e, rest) ← parse fuel rest
      match rest with
      | .operator ")" :: rest => return (e, rest)
      | _ => .error (.malformed "expecting ')'")
    | .operator op :: rest =>
      if ["+", "-", "!", "~"].contains op then do
        let (e, rest) ← parseUnary fuel rest
        return (.unary op e, rest)
      else .error (.malformed "expecting primary")
    | [] => .error (.malformed "expecting primary")

end

/-- The expression that a text is, or what is expected where it goes wrong. -/
def read (text : String) : Except Flaw Expr := do
  let ts := tokens (text.length + 1) text.toList
  let (e, rest) ← parse (16 * ts.length + 32) ts
  if rest.isEmpty then return e else throw (.malformed "expecting EOF")

/-- A value wrapped to 64 bits with a sign. -/
def wrap (n : Int) : Int :=
  n.bmod (2 ^ 64)

/-- A truth value as a number. -/
def truth (b : Bool) : Int :=
  if b then 1 else 0

/-- The value of an operator, unless it divides by zero. -/
def apply (op : String) (a b : Int) : Except Flaw Int :=
  let bits (f : Nat → Nat → Nat) : Int :=
    wrap (f (a % 2 ^ 64).toNat (b % 2 ^ 64).toNat : Nat)
  let shift := (b % 64).toNat
  match op with
  | "+" => .ok (wrap (a + b))
  | "-" => .ok (wrap (a - b))
  | "*" => .ok (wrap (a * b))
  | "/" => if b = 0 then .error (.malformed "division by zero") else .ok (wrap (a.tdiv b))
  | "%" => if b = 0 then .error (.malformed "division by zero") else .ok (wrap (a.tmod b))
  | "<<" => .ok (wrap (a * 2 ^ shift))
  | ">>" => .ok (a.fdiv (2 ^ shift))
  | "<" => .ok (truth (a < b))
  | "<=" => .ok (truth (a ≤ b))
  | ">" => .ok (truth (a > b))
  | ">=" => .ok (truth (a ≥ b))
  | "==" => .ok (truth (a = b))
  | "!=" => .ok (truth (a ≠ b))
  | "&" => .ok (bits Nat.land)
  | "|" => .ok (bits Nat.lor)
  | _ => .ok (bits Nat.xor)

/-- The value that the text of a variable stands for; a blank text is zero. -/
def valueOf (text : String) : Except Flaw Int :=
  let isBlank (c : Char) : Bool := c = ' ' || ('\t' ≤ c && c ≤ '\r')
  let number (isNegative : Bool) (cs : List Char) : Except Flaw Int :=
    let (n, length) := leadingConstant cs
    let tooGreat := if isNegative then n > greatest + 1 else n > greatest
    if length = 0 || tooGreat || !(cs.drop length).all isBlank then .error (.illegal text)
    else .ok (if isNegative then -n else n)
  match text.toList.dropWhile isBlank with
  | [] => .ok 0
  | '-' :: cs => number true cs
  | '+' :: cs => number false cs
  | cs => number false cs

/-- The assignments made so far, the latest first. -/
abbrev Evaluation := StateT (List (String × String)) (Except Flaw)

/-- The value of an expression over the values of the variables. -/
def eval (lookup : String → String) : Expr → Evaluation Int
  | .number n => return wrap n
  | .variable x => value x
  | .unary op e => do
    let n ← eval lookup e
    return match op with
      | "-" => wrap (-n)
      | "!" => truth (n = 0)
      | "~" => wrap (-n - 1)
      | _ => n
  | .binary "&&" a b => do
    if (← eval lookup a) = 0 then return 0
    return truth ((← eval lookup b) ≠ 0)
  | .binary "||" a b => do
    if (← eval lookup a) ≠ 0 then return 1
    return truth ((← eval lookup b) ≠ 0)
  | .binary op a b => do
    let m ← eval lookup a
    let n ← eval lookup b
    apply op m n
  | .conditional test yes no => do
    if (← eval lookup test) ≠ 0 then eval lookup yes else eval lookup no
  | .assign x op e => do
    let n ← eval lookup e
    let n ← match op with
      | none => pure n
      | some op => do apply op (← value x) n
    modify ((x, toString n) :: ·)
    return n
where
  /-- The value of a variable, assignments made so far included. -/
  value (x : String) : Evaluation Int := do
    valueOf (((← get).lookup x).getD (lookup x))

end CommandSpec.Shell.Arithmetic
