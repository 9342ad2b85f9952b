import CommandSpec.Shell.State
import CommandSpec.Text.Integer

/-!
# Commands that leave something

`exit` leaves the shell, `return` a function, `break` and `continue` loops. A command answers its exit
status; these throw.
-/

namespace CommandSpec.Shell.Builtin

open Eval

/-- The number that an operand is, or a complaint that leaves the shell. -/
def number (operand : String) : Eval Nat :=
  let isBlank (c : Char) : Bool := c.isWhitespace || c = '\x0b' || c = '\x0c'
  let unsigned := match operand.toList.dropWhile isBlank with
    | '+' :: cs => cs
    | cs => cs
  match Text.readDigits? (unsigned.reverse.dropWhile isBlank).reverse with
  | some n => if n < 2 ^ 31 then return n else abort ("Illegal number: " ++ operand)
  | none => abort ("Illegal number: " ++ operand)

/-- Leave the shell: `exit [n]`. In an action for a signal the status is that before the action. -/
def exit (args : List String) : Eval Nat := do
  let s ← get
  match args with
  | [] => throw (.exit (s.outerStatus.getD s.status))
  | n :: _ => throw (.exit ((← number n) % 256))

/-- Leave the function: `return [n]`. -/
def giveBack (args : List String) : Eval Nat := do
  match args with
  | [] => throw (.back (← get).status)
  | n :: _ => throw (.back (← number n))

/-- The number of loops that `break` or `continue` is about: at least one, at most all. -/
def levels (args : List String) : Eval Nat := do
  let n ← args.head?.elim (pure 1) number
  if n = 0 then abort ("Illegal number: " ++ args.headD "")
  return min n (← get).loops

/-- Leave loops: `break [n]`. Outside loops it does nothing. -/
def leave (args : List String) : Eval Nat := do
  let n ← levels args
  if n = 0 then return 0
  setStatus 0
  throw (.leave n)

/-- Go on with the next turn of a loop: `continue [n]`. Outside loops it does nothing. -/
def again (args : List String) : Eval Nat := do
  let n ← levels args
  if n = 0 then return 0
  setStatus 0
  throw (.again n)

/-- Drop the first arguments: `shift [n]`. -/
def shift (args : List String) : Eval Nat := do
  let n ← args.head?.elim (pure 1) number
  if n > (← get).arguments.length then abort "can't shift that many"
  modify fun s => { s with arguments := s.arguments.drop n, optionPlace := (1, 0) }
  return 0

end CommandSpec.Shell.Builtin
