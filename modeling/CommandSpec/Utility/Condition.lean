import CommandSpec.Utility.ShellCondition

/-!
# `test`

`test` evaluates a condition over its arguments: a text that is not empty, a comparison of texts or
of integers, a question about a file, or several of these joined by `!`, `-a`, `-o` and
parentheses. The answer is an exit status: 0 for true, 1 for false, 2 when the arguments are no
condition. Up to four arguments are judged by how many there are, more by the operators among them.
-/

namespace CommandSpec.Utility

/-- An answer and the arguments that are left, or what is wrong. -/
abbrev Judged := Except ConditionFault (Bool × List String)

/-- An answer with some arguments left. -/
def leaving (rest : List String) (answer : Except ConditionFault Bool) : Judged :=
  answer.map fun value => (value, rest)

/-- Whether an argument is a dash and one more character. -/
def isQuestion (arg : String) : Bool :=
  arg.length = 2 && arg.toList.head? = some '-'

/-- Whether an argument is the operator of a comparison. -/
def isComparison (arg : String) : Bool :=
  (binaryOperators false).contains arg

/-- A question; an argument has to follow its operator. -/
def judgeQuestion (op : String) : List String → Task Judged
  | [] => return .error (if (unaryOperators false).contains op then .missingArgument op else .noUnary op)
  | arg :: rest => do
    if !(unaryOperators false).contains op then return .error (.noUnary op)
    return leaving rest (← askOne op arg)

/-- A comparison, perhaps of the lengths of texts that follow `-l`. -/
def judgeComparison (a op : String) : List String → Task Judged
  | [] => return .error (.missingArgument op)
  | "-l" :: b :: rest => do return leaving rest (← compareTwo a op (toString b.length))
  | b :: rest => do return leaving rest (← compareTwo a op b)

/-- The first of two arguments judged as such. -/
def judgeTwo (first second : String) (rest : List String) : Task Judged := do
  if first = "!" then return leaving rest (.ok (second = ""))
  if isQuestion first then judgeQuestion first (second :: rest)
  else return .error (.missingArgument second)

mutual

/-- A condition of so many arguments, by how many they are. -/
def judgeCount : (fuel : Nat) → (count : Nat) → List String → Task Judged
  | 0, _, _ => return .error (.missingArgument "")
  | fuel + 1, count, args => do
    match count, args with
    | 1, a :: rest => return leaving rest (.ok (a ≠ ""))
    | 2, a :: b :: rest => judgeTwo a b rest
    | 3, a :: b :: c :: rest =>
      if isComparison b then judgeComparison a b (c :: rest)
      else if a = "!" then return (← judgeTwo b c rest).map fun (value, rest) => (!value, rest)
      else if a = "(" && c = ")" then return leaving rest (.ok (b ≠ ""))
      else if b = "-a" || b = "-o" then judgeAny fuel args
      else return .error (.noBinary b)
    | 4, a :: b :: c :: d :: rest =>
      if a = "!" then
        return (← judgeCount fuel 3 (b :: c :: d :: rest)).map fun (value, rest) => (!value, rest)
      else if a = "(" && d = ")" then judgeTwo b c rest
      else judgeAny fuel args
    | _, _ => judgeAny fuel args

/-- One condition without `-a` and `-o`. -/
def judgeTerm : (fuel : Nat) → List String → Task Judged
  | 0, _ => return .error (.missingArgument "")
  | _ + 1, [] => return .error (.missingArgument "")
  | fuel + 1, a :: args => do
    match a, args with
    | "!", [] => return .error (.missingArgument "!")
    | "!", _ => return (← judgeTerm fuel args).map fun (value, rest) => (!value, rest)
    | "(", [] => return .error (.missingArgument "(")
    | "(", _ =>
      let inner := (args.drop 1).takeWhile (· ≠ ")")
      let count := if inner.length < 3 && inner.length + 1 < args.length then inner.length + 1 else args.length
      match ← judgeCount fuel count args with
      | .ok (value, ")" :: rest) => return .ok (value, rest)
      | .ok (_, found) => return .error (.unclosed ((found.head?.map inQuotes).getD ""))
      | .error e => return .error e
    | "-l", b :: op :: c :: rest =>
      if isComparison op then judgeComparison (toString b.length) op (c :: rest)
      else return .error (.noUnary "-l")
    | _, op :: b :: rest =>
      if isComparison op then judgeComparison a op (b :: rest)
      else if isQuestion a then judgeQuestion a args
      else return leaving args (.ok (a ≠ ""))
    | _, _ =>
      if isQuestion a then judgeQuestion a args else return leaving args (.ok (a ≠ ""))

/-- Conditions joined by `-a`. -/
def judgeAll : (fuel : Nat) → List String → Task Judged
  | 0, _ => return .error (.missingArgument "")
  | fuel + 1, args => do
    match ← judgeTerm fuel args with
    | .ok (value, "-a" :: rest) =>
      if rest.isEmpty then return .error (.missingArgument "-a")
      return (← judgeAll fuel rest).map fun (other, rest) => (value && other, rest)
    | other => return other

/-- Conditions joined by `-o`. -/
def judgeAny : (fuel : Nat) → List String → Task Judged
  | 0, _ => return .error (.missingArgument "")
  | fuel + 1, args => do
    match ← judgeAll fuel args with
    | .ok (value, "-o" :: rest) =>
      if rest.isEmpty then return .error (.missingArgument "-o")
      return (← judgeAny fuel rest).map fun (other, rest) => (value || other, rest)
    | other => return other

end

/-- The condition that all arguments are; none is false. -/
def judge (args : List String) : Task (Except ConditionFault Bool) := do
  if args.isEmpty then return .ok false
  match ← judgeCount (8 * args.length + 8) args.length args with
  | .ok (value, []) => return .ok value
  | .ok (_, extra :: _) => return .error (.unexpected extra)
  | .error e => return .error e

/-- The arguments of `test`, or those of `[` without the bracket that closes them. -/
def conditionArguments? (bracket : Bool) (args : List String) : Option (List String) :=
  if !bracket then some args
  else if args.getLast? = some "]" then some args.dropLast
  else none

/-- Judge a condition: `test condition`, or `[ condition ]` when `bracket` is set. -/
def test (bracket : Bool) (args : List String) : Task Nat := do
  let inShell := (← read).inShell
  let judged ← match conditionArguments? bracket args with
    | none => pure (.error .missingBracket)
    | some args => if inShell then ShellCondition.judge 4 false args else judge args
  match judged with
  | .ok value => return if value then 0 else 1
  | .error fault =>
    Task.complain (if inShell then fault.shellWording else fault.programWording)
    return 2

end CommandSpec.Utility
