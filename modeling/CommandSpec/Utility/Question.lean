import CommandSpec.Text.Integer
import CommandSpec.Utility.Arguments

/-!
# Questions and comparisons

A condition is made of questions with one operand, about a text or a file, and of comparisons of two
texts, two integers or two files. The shell and the program word what is wrong with a condition in
different ways, and the program knows a few more questions.
-/

namespace CommandSpec.Utility

/-- An integer operand, with blanks around it allowed; to a shell it has to fit 64 bits. -/
def integerOperand? (inShell : Bool) (s : String) : Option Int :=
  let blank (c : Char) := c = ' ' || ('\t' ≤ c && c ≤ '\r')
  (Text.readInteger? ((s.toList.dropWhile blank).reverse.dropWhile blank).reverse).filter fun n =>
    !inShell || (-2 ^ 63 ≤ n && n < 2 ^ 63)

/-- What can be wrong with a condition. -/
inductive ConditionFault where
  | missingBracket
  | missingArgument (last : String)
  | unclosed (found : String)
  | unexpected (argument : String)
  | noInteger (operand : String)
  | noUnary (operator : String)
  | noBinary (operator : String)
  deriving DecidableEq, Repr

namespace ConditionFault

/-- How the shell words a fault. -/
def shellWording : ConditionFault → String
  | .missingBracket => "missing ]"
  | .missingArgument last => last ++ ": argument expected"
  | .unclosed _ => "closing paren expected"
  | .unexpected argument => argument ++ ": unexpected operator"
  | .noInteger operand => "Illegal number: " ++ operand
  | .noUnary operator => operator ++ ": unexpected operator"
  | .noBinary operator => operator ++ ": unexpected operator"

/-- How the program words a fault. -/
def programWording : ConditionFault → String
  | .missingBracket => "missing " ++ inQuotes "]"
  | .missingArgument last => "missing argument after " ++ inQuotes last
  | .unclosed found =>
    inQuotes ")" ++ " expected" ++ (if found = "" then "" else ", found " ++ found)
  | .unexpected argument => "extra argument " ++ inQuotes argument
  | .noInteger operand => "invalid integer " ++ inQuotes operand
  | .noUnary operator => inQuotes operator ++ ": unary operator expected"
  | .noBinary operator => inQuotes operator ++ ": binary operator expected"

end ConditionFault

/-- The operators of questions with one operand. -/
def unaryOperators (inShell : Bool) : List String :=
  ["-b", "-c", "-d", "-e", "-f", "-g", "-G", "-h", "-k", "-L", "-n", "-O", "-p", "-r", "-s", "-S", "-t",
    "-u", "-w", "-x", "-z"] ++ if inShell then [] else ["-N"]

/-- The operators of comparisons. -/
def binaryOperators (inShell : Bool) : List String :=
  ["=", "!=", "-eq", "-ne", "-lt", "-le", "-gt", "-ge", "-ef", "-nt", "-ot"]
    ++ if inShell then ["<", ">"] else ["=="]

/-- The answer to a question with one operand. -/
def askOne (op arg : String) : Task (Except ConditionFault Bool) := do
  let ask (f : Node → Bool) : Task (Except ConditionFault Bool) :=
    return .ok ((← Task.node? arg).any f)
  match op with
  | "-n" => return .ok (arg ≠ "")
  | "-z" => return .ok (arg = "")
  | "-e" => ask fun _ => true
  | "-r" => ask fun _ => true
  | "-w" => ask fun _ => true
  | "-O" => ask fun _ => true
  | "-G" => ask fun _ => true
  | "-x" => ask fun n => n.isDirectory || n.isExecutable
  | "-d" => ask Node.isDirectory
  | "-f" => ask Node.isFile
  | "-s" => ask fun n =>
    match n.content with
    | .file bytes => !bytes.isEmpty
    | .directory _ => true
    | .program _ => true
    | _ => false
  | "-c" => ask fun n =>
    match n.content with
    | .device _ => true
    | _ => false
  | "-p" => ask fun n =>
    match n.content with
    | .fifo _ => true
    | _ => false
  | "-L" => return .ok ((← Task.link? arg).any Node.isSymbolic)
  | "-h" => return .ok ((← Task.link? arg).any Node.isSymbolic)
  | "-u" => ask fun n => n.mode &&& 0o4000 ≠ 0
  | "-g" => ask fun n => n.mode &&& 0o2000 ≠ 0
  | "-k" => ask fun n => n.mode &&& 0o1000 ≠ 0
  | "-N" => ask fun n => n.modified > n.accessed
  | "-t" =>
    let isNumber := (integerOperand? (← read).inShell arg).isSome
    return if isNumber then .ok false else .error (.noInteger arg)
  | _ => return .ok false

/-- Whether a file was changed after another. A file that is not there counts as older than one that
is, but not to a shell. -/
def isNewer (inShell : Bool) : (a b : Option Node) → Bool
  | some a, some b => a.modified > b.modified
  | some _, none => !inShell
  | none, _ => false

/-- A comparison of integers, or the operand that is none. -/
def compareIntegers (inShell : Bool) (a b : String) (f : Int → Int → Bool) : Except ConditionFault Bool :=
  match integerOperand? inShell a, integerOperand? inShell b with
  | some m, some n => .ok (f m n)
  | none, _ => .error (.noInteger a)
  | _, none => .error (.noInteger b)

/-- The answer to a comparison. -/
def compareTwo (a op b : String) : Task (Except ConditionFault Bool) := do
  let inShell := (← read).inShell
  match op with
  | "=" => return .ok (a = b)
  | "==" => return .ok (a = b)
  | "!=" => return .ok (a ≠ b)
  | "<" => return .ok (a < b)
  | ">" => return .ok (b < a)
  | "-eq" => return compareIntegers inShell a b fun m n => m = n
  | "-ne" => return compareIntegers inShell a b fun m n => m ≠ n
  | "-lt" => return compareIntegers inShell a b fun m n => m < n
  | "-le" => return compareIntegers inShell a b fun m n => m ≤ n
  | "-gt" => return compareIntegers inShell a b fun m n => m > n
  | "-ge" => return compareIntegers inShell a b fun m n => m ≥ n
  | "-nt" => return .ok (isNewer inShell (← Task.node? a) (← Task.node? b))
  | "-ot" => return .ok (isNewer inShell (← Task.node? b) (← Task.node? a))
  | _ =>
    let (files, cwd) ← Task.place
    match files.resolve cwd a, files.resolve cwd b with
    | .ok i, .ok j => return .ok (i == j)
    | _, _ => return .ok false

end CommandSpec.Utility
