import CommandSpec.Machine.Task
import CommandSpec.Utility.Escape

/-!
# `echo`

The shell's own `echo` knows the option `-n` and always replaces escapes. The program of that name
replaces them only after `-e`.
-/

namespace CommandSpec.Utility

/-- Write the arguments, with escapes replaced by rules or as they are, and a newline unless it is
left out. -/
def echoArguments (rules? : Option EscapeRules) (newline : Bool) (args : List String) : Task Nat := do
  let text := " ".intercalate args
  let (text, ending) := rules?.elim (text, .plain) fun rules => rules.unescape text
  Task.print (if newline && ending ≠ .stop then text ++ "\n" else text)
  return 0

/-- The `echo` of the shell. -/
def shellEcho : List String → Task Nat
  | "-n" :: args => echoArguments (some {}) false args
  | args => echoArguments (some {}) true args

/-- Whether an argument is made of `echo` options. -/
def isEchoOption (arg : String) : Bool :=
  match arg.toList with
  | '-' :: c :: cs => (c :: cs).all fun c => c = 'n' || c = 'e' || c = 'E'
  | _ => false

/-- Whether the options turn escapes on; the last one decides. -/
def escapesOn (options : List String) : Bool :=
  (options.flatMap String.toList).foldl
    (fun on c => if c = 'e' then true else if c = 'E' then false else on) false

/-- The program `echo`. -/
def echo (args : List String) : Task Nat :=
  let options := args.takeWhile isEchoOption
  echoArguments (if escapesOn options then some { hexadecimal := true } else none)
    (!options.any fun o => o.toList.contains 'n') (args.dropWhile isEchoOption)

end CommandSpec.Utility
