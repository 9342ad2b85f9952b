import CommandSpec.Number

/-!
# Decimal integers of 32 bits

A value outside the range is refused rather than wrapped.
-/

namespace CommandSpec.Text

def digitsValue (digits : List Char) : Nat :=
  digits.foldl (fun n d => 10 * n + (d.toNat - '0'.toNat)) 0

def readDigits? (cs : List Char) : Option Nat :=
  if cs ≠ [] ∧ cs.all Char.isDigit then some (digitsValue cs) else none

/-- An optional sign and one or more digits, read as an integer. -/
def readInteger? : List Char → Option Int
  | '+' :: cs => (readDigits? cs).map fun n => (n : Int)
  | '-' :: cs => (readDigits? cs).map fun n => -(n : Int)
  | cs => (readDigits? cs).map fun n => (n : Int)

/-- An integer that fits 32 bits with a sign. -/
def readInt32? (cs : List Char) : Option Int :=
  (readInteger? cs).filter fun n => -2 ^ 31 ≤ n ∧ n < 2 ^ 31

/-! ## Digits in a base

Numbers in scripts, formats and escapes are written in base 8, 10 or 16. -/

/-- The value of a digit in a base up to 16, if it is one. -/
def digit? (base : Nat) (c : Char) : Option Nat :=
  let value :=
    if c.isDigit then c.toNat - '0'.toNat
    else if 'a' ≤ c && c ≤ 'f' then c.toNat - 'a'.toNat + 10
    else if 'A' ≤ c && c ≤ 'F' then c.toNat - 'A'.toNat + 10
    else base
  if value < base then some value else none

def isDigitIn (base : Nat) (c : Char) : Bool :=
  (digit? base c).isSome

def numberIn (base : Nat) (digits : List Char) : Nat :=
  digits.foldl (fun n c => base * n + (digit? base c).getD 0) 0

/-- The digits of a number in a base, filled up with zeros. -/
def paddedDigits (base length n : Nat) : List Char :=
  let digits := Nat.toDigits base n
  List.replicate (length - digits.length) '0' ++ digits

def readNumberIn? (base : Nat) (cs : List Char) : Option Nat :=
  if cs ≠ [] && cs.all (isDigitIn base) then some (numberIn base cs) else none

def readNumber? (s : String) : Option Nat :=
  readNumberIn? 10 s.toList

end CommandSpec.Text
