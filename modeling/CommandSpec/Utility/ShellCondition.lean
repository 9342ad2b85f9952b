import CommandSpec.Utility.Question

/-!
# Conditions as the shell judges them

The shell goes through the arguments from left to right. What a word means depends on the words after
it: an operator that lacks an operand, or that stands where an operand has to be, is a text. Every
judgement tells the arguments from the last one that it used on.
-/

namespace CommandSpec.Utility.ShellCondition

/-- What an argument means. -/
inductive Meaning where
  | none
  | operand
  | not
  | and
  | or
  | opening
  | closing
  | unary (op : String)
  | binary (op : String)
  deriving DecidableEq, Repr, Inhabited

/-- What the first of some arguments means. -/
def meaning : List String → Meaning
  | [] => .none
  | arg :: rest =>
    match arg with
    | "!" => .not
    | "-a" => .and
    | "-o" => .or
    | "(" => if rest.isEmpty then .operand else .opening
    | ")" => .closing
    | _ =>
      if (binaryOperators true).contains arg then .binary arg
      else if (unaryOperators true).contains arg then
        let isOperand := match rest with
          | [] => true
          | next :: more => !more.isEmpty && (binaryOperators true).contains next
        if isOperand then .operand else .unary arg
      else .operand

/-- An answer and the arguments from the last one that was used on, or what is wrong. -/
abbrev Judged := Except ConditionFault (Bool × List String)

/-- The comparison that some arguments begin with. -/
def judgeComparison : List String → Task Judged
  | a :: op :: b :: rest => return (← compareTwo a op b).map fun value => (value, b :: rest)
  | _ :: op :: _ => return .error (.missingArgument op)
  | args => return .ok (false, args)

mutual

/-- A question, a comparison, a text or a condition in parentheses. -/
def judgePrimary : (fuel : Nat) → Meaning → List String → Task Judged
  | 0, _, args => return .ok (false, args)
  | fuel + 1, m, args => do
    match m with
    | .none => return .ok (false, args)
    | .opening =>
      let inner := args.drop 1
      if meaning inner = .closing then return .ok (false, inner)
      match ← judgeAny fuel (meaning inner) inner with
      | .error e => return .error e
      | .ok (value, used) =>
        if meaning (used.drop 1) = .closing then return .ok (value, used.drop 1)
        return .error (.unclosed "")
    | .unary op =>
      match args.drop 1 with
      | [] => return .error (.missingArgument op)
      | arg :: rest => return (← askOne op arg).map fun value => (value, arg :: rest)
    | _ =>
      match meaning (args.drop 1) with
      | .binary _ => judgeComparison args
      | _ => return .ok (args.headD "" ≠ "", args)

/-- A condition that may be negated. -/
def judgeNegated : (fuel : Nat) → Meaning → List String → Task Judged
  | 0, _, args => return .ok (false, args)
  | fuel + 1, m, args => do
    if m ≠ .not then return ← judgePrimary fuel m args
    let next := meaning (args.drop 1)
    let rest := if next = .none then args else args.drop 1
    return (← judgeNegated fuel next rest).map fun (value, used) => (!value, used)

/-- Conditions joined by `-a`. -/
def judgeAll : (fuel : Nat) → Meaning → List String → Task Judged
  | 0, _, args => return .ok (false, args)
  | fuel + 1, m, args => do
    match ← judgeNegated fuel m args with
    | .error e => return .error e
    | .ok (value, used) =>
      if meaning (used.drop 1) ≠ .and then return .ok (value, used)
      let rest := used.drop 2
      return (← judgeAll fuel (meaning rest) rest).map fun (other, used) => (value && other, used)

/-- Conditions joined by `-o`. -/
def judgeAny : (fuel : Nat) → Meaning → List String → Task Judged
  | 0, _, args => return .ok (false, args)
  | fuel + 1, m, args => do
    match ← judgeAll fuel m args with
    | .error e => return .error e
    | .ok (value, used) =>
      if meaning (used.drop 1) ≠ .or then return .ok (value, used)
      let rest := used.drop 2
      return (← judgeAny fuel (meaning rest) rest).map fun (other, used) => (value || other, used)

end

/-- The condition that some arguments are, read from a first meaning on. -/
def judgeFrom (m : Meaning) (args : List String) : Task (Except ConditionFault Bool) := do
  match ← judgeAny (8 * args.length + 8) m args with
  | .error e => return .error e
  | .ok (value, used) =>
    match used with
    | first :: _ :: _ => return .error (.unexpected first)
    | _ => return .ok value

/-- Whether some arguments stand in parentheses. -/
def inParentheses (args : List String) : Bool :=
  args.head? = some "(" && args.getLast? = some ")"

/-- The condition that all arguments are; `negated` tells that a `!` was taken off before. Three or four
arguments may have parentheses or a `!` taken off, unless the second of three is a comparison; at most
`fuel` times. -/
def judge : (fuel : Nat) → (negated : Bool) → List String → Task (Except ConditionFault Bool)
  | 0, _, _ => return .ok false
  | _ + 1, _, [] => return .ok false
  | fuel + 1, negated, args => do
    let found ←
      if args.length = 3 && (binaryOperators true).contains (args[1]?.getD "") then
        judgeFrom .operand args
      else if (args.length = 3 || args.length = 4) && inParentheses args then
        return ← judge fuel negated (args.drop 1).dropLast
      else if (args.length = 3 || args.length = 4) && args.head? = some "!" then
        return ← judge fuel true (args.drop 1)
      else judgeFrom (meaning args) args
    return found.map fun value => value != negated

end CommandSpec.Utility.ShellCondition
