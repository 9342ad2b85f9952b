import CommandSpec.Number
import CommandSpec.Text.Integer
import CommandSpec.Text.Quoting

/-!
# Amounts

An amount is a decimal number, perhaps with a `+` before it and a unit after it: `k`, `M` and so on
for powers of 1024, with `B` for powers of 1000, or `b` for blocks of 512.
-/

namespace CommandSpec.Utility

/-- What can be wrong with an amount. -/
inductive AmountFault where
  | invalid
  | tooLarge
  deriving DecidableEq, Repr

namespace AmountFault

/-- The end of a complaint about an amount. -/
def wording : AmountFault → String
  | invalid => ""
  | tooLarge => ": Value too large for defined data type"

end AmountFault

/-- The first number that is too large for an amount. -/
def amountLimit : Nat := 2 ^ 64

/-- What the unit at the end of an amount counts for, if it is one of some letters. -/
def unitFactor? (units : String) : List Char → Option Nat
  | [] => some 1
  | 'b' :: rest => if units.toList.contains 'b' && rest.isEmpty then some 512 else none
  | letter :: rest => do
    guard (units.toList.contains letter)
    let power := (← "KMGTPEZYRQ".toList.idxOf? letter.toUpper) + 1
    match rest with
    | [] => some (1024 ^ power)
    | ['B'] => some (1000 ^ power)
    | ['i', 'B'] => some (1024 ^ power)
    | _ => none

/-- Read an amount; a unit alone stands for one of it. -/
def readAmount (units : String) (s : String) : Except AmountFault Nat :=
  let cs := s.toList.dropWhile fun c => c = ' ' || ('\t' ≤ c && c ≤ '\r')
  let cs := if cs.head? = some '+' then cs.drop 1 else cs
  let digits := cs.takeWhile Char.isDigit
  let rest := cs.drop digits.length
  let isUnit := s.toList.head?.any units.toList.contains
  match unitFactor? units rest with
  | none => .error .invalid
  | some factor =>
    if digits.isEmpty && !isUnit then .error .invalid
    else
      let n := (if digits.isEmpty then 1 else Text.numberIn 10 digits) * factor
      if n < amountLimit then .ok n else .error .tooLarge

/-- Read an amount that has to lie in a range, or the complaint that it does not. -/
def readAmountIn (what units : String) (least most : Nat) (s : String) : Except String Nat :=
  let complaint := what ++ ": " ++ inQuotes s
  match readAmount units s with
  | .ok n =>
    if least ≤ n && n ≤ most then .ok n
    else .error (complaint ++ if n < 2 ^ 30 then ": Numerical result out of range" else AmountFault.tooLarge.wording)
  | .error e => .error (complaint ++ e.wording)

end CommandSpec.Utility
