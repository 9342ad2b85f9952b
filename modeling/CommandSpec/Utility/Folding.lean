import CommandSpec.Utility.Amount
import CommandSpec.Utility.Inputs
import CommandSpec.Utility.Outcome

/-!
# `fold`

`fold` breaks lines that are wider than allowed, on request after a blank.
-/

namespace CommandSpec.Utility

/-- How lines are folded. -/
structure LineFold where
  width : Nat := 80
  /-- Whether every byte takes one column. -/
  bytes : Bool := false
  /-- Whether lines are broken after blanks where that is possible. -/
  atBlanks : Bool := false
  deriving DecidableEq, Repr, Inhabited

namespace LineFold

/-- The column after a character. -/
def columnAfter (f : LineFold) (column : Nat) (c : Char) : Nat :=
  if f.bytes then column + 1
  else
    match c with
    | '\x08' => column - 1
    | '\r' => 0
    | '\t' => column + (8 - column % 8)
    | _ => column + 1

/-- Whether a line may be broken after a character. -/
def isBlank (c : Char) : Bool :=
  c = ' ' || c = '\t'

/-- Lines of a line: `held` is what stands in the current one, the last character first, and fills
`column` columns. At most `fuel` steps. -/
def breakFrom (f : LineFold) : (fuel column : Nat) → (held : List Char) → List Char → List (List Char)
  | 0, _, held, cs => [held.reverse ++ cs]
  | _ + 1, _, held, [] => [held.reverse]
  | fuel + 1, column, held, c :: cs =>
    let next := f.columnAfter column c
    if next ≤ f.width then f.breakFrom fuel next (c :: held) cs
    else
      let after := held.takeWhile (!isBlank ·)
      if f.atBlanks && after.length < held.length then
        let column := after.reverse.foldl f.columnAfter 0
        (held.drop after.length).reverse :: f.breakFrom fuel column after (c :: cs)
      else if held.isEmpty then f.breakFrom fuel next [c] cs
      else held.reverse :: f.breakFrom fuel 0 [] (c :: cs)

/-- A record, broken where it is too wide. -/
def foldRecord (f : LineFold) (record : List Char) : List Char :=
  let (line, ending) := if record.getLast? = some '\n' then (record.dropLast, ['\n']) else (record, [])
  List.intercalate ['\n'] (f.breakFrom (3 * line.length + 3) 0 [] line) ++ ending

end LineFold

/-- Arguments of `fold` in which a number alone was made a width. -/
def foldArguments : List String → List String
  | [] => []
  | arg :: rest =>
    match arg.toList with
    | '-' :: c :: cs =>
      if arg = "--" then arg :: rest
      else if c.isDigit then .ofList ('-' :: 'w' :: c :: cs) :: foldArguments rest
      else arg :: foldArguments rest
    | _ => arg :: foldArguments rest

/-- Break wide lines: `fold [-bs] [-w width] [file…]`. -/
def fold (args : List String) : Task Nat :=
  let table : OptionTable :=
    { flags := "bs", valued := "w", names := [("bytes", "b"), ("spaces", "s"), ("width", "w")] }
  withOptions table (foldArguments args) fun a => do
    let text := (a.value? "w").getD "80"
    match readAmountIn "invalid number of columns" "" 1 (2 ^ 64 - 1) text with
    | .error complaint => failWith 1 complaint
    | .ok width =>
      let f : LineFold := { width, bytes := a.has "b", atBlanks := a.has "s" }
      mapRecords '\n' f.foldRecord a.operands

end CommandSpec.Utility
