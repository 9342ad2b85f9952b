import CommandSpec.Shell.State

/-!
# Options of the shell's own commands

Options come before operands, several letters in one argument; `--` ends them. A letter may take a
value: the rest of its argument, or else the next one.
-/

namespace CommandSpec.Shell.Builtin

open Eval

/-- The options at the head of arguments with their values, and the operands after them. -/
def readFlags (flags valued : List Char) :
    List String → Except String (List (Char × String) × List String)
  | [] => .ok ([], [])
  | "--" :: operands => .ok ([], operands)
  | arg :: rest =>
    match arg.toList with
    | '-' :: c :: cs =>
      let plain := (c :: cs).takeWhile flags.contains
      let also (more : List (Char × String)) (x : List (Char × String) × List String) :=
        (plain.map (·, "") ++ more ++ x.1, x.2)
      match (c :: cs).drop plain.length with
      | [] => (readFlags flags valued rest).map (also [])
      | letter :: value =>
        if !valued.contains letter then .error ("Illegal option -" ++ letter.toString)
        else if !value.isEmpty then
          (readFlags flags valued rest).map (also [(letter, .ofList value)])
        else
          match rest with
          | [] => .error ("No arg for -" ++ letter.toString ++ " option")
          | value :: rest => (readFlags flags valued rest).map (also [(letter, value)])
    | _ => .ok ([], arg :: rest)

/-- The options and operands of a command; a wrong option leaves the shell. -/
def flagsOf (flags : String) (args : List String) : Eval (List Char × List String) :=
  match readFlags flags.toList [] args with
  | .ok (found, operands) => return (found.map Prod.fst, operands)
  | .error e => abort e

/-- The operands of a command that knows no options. -/
def operandsOf (args : List String) : Eval (List String) :=
  return (← flagsOf "" args).2

end CommandSpec.Shell.Builtin
