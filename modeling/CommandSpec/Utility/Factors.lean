import CommandSpec.Text.Integer
import CommandSpec.Utility.Inputs
import CommandSpec.Utility.Outcome

/-!
# `factor`

A number is cut into prime factors. Small factors are found by trial. What is left is tested for being prime,
and if it is not, a factor is looked for in a sequence of remainders that runs into a circle.
-/

namespace CommandSpec.Utility

namespace Factors

/-- A power modulo a number; the exponent has at most `fuel` binary digits. -/
def powerModulo (n : Nat) : (fuel : Nat) → (base exponent : Nat) → Nat
  | 0, _, _ => 1 % n
  | fuel + 1, base, exponent =>
    if exponent = 0 then 1 % n
    else
      let half := powerModulo n fuel (base * base % n) (exponent / 2)
      if exponent % 2 = 1 then half * base % n else half

/-- Whether `n - 1` is met when a remainder is squared again and again, at most `fuel` times. -/
def meetsLast (n : Nat) : (fuel : Nat) → Nat → Bool
  | 0, _ => false
  | fuel + 1, x => x = n - 1 || meetsLast n fuel (x * x % n)

/-- How often two divides a number, and what is left; at most `fuel` times. -/
def halved : (fuel : Nat) → Nat → Nat × Nat
  | 0, n => (0, n)
  | fuel + 1, n =>
    if n % 2 = 0 && n ≠ 0 then
      let (k, rest) := halved fuel (n / 2)
      (k + 1, rest)
    else (0, n)

/-- Whether a number passes the test for being prime with a base. -/
def passes (n base : Nat) : Bool :=
  let bits := n.log2 + 1
  let (twos, odd) := halved bits (n - 1)
  let x := powerModulo n bits base odd
  base % n = 0 || x = 1 || meetsLast n twos x

/-- The first primes. -/
def smallPrimes : List Nat :=
  [2, 3, 5, 7, 11, 13, 17, 19, 23, 29, 31, 37, 41, 43, 47]

/-- Whether a number is prime. -/
def isPrime (n : Nat) : Bool :=
  n > 1 && smallPrimes.all fun p => n = p || (n % p ≠ 0 && passes n p)

/-- Look for a factor: two remainders go through a sequence, one twice as fast as the other, until their
difference has a factor in common with the number. At most `fuel` steps. -/
def chase (n c : Nat) : (fuel : Nat) → (slow fast : Nat) → Option Nat
  | 0, _, _ => none
  | fuel + 1, slow, fast =>
    let next (x : Nat) : Nat := (x * x + c) % n
    let slow := next slow
    let fast := next (next fast)
    let d := Nat.gcd (max slow fast - min slow fast) n
    if d = 1 then chase n c fuel slow fast else if d = n then none else some d

/-- A factor of a number that is not prime. -/
def factor? (n : Nat) : Option Nat :=
  (List.range 20).findSome? fun c => chase n (c + 1) (2 ^ 22) 2 2

/-- The prime factors of a number without small ones; at most `fuel` deep. -/
def large : (fuel : Nat) → Nat → List Nat
  | 0, n => [n]
  | fuel + 1, n =>
    if n ≤ 1 then []
    else if isPrime n then [n]
    else
      match factor? n with
      | none => [n]
      | some d => large fuel d ++ large fuel (n / d)

/-- The factors of a number that are at least `p`, by trial; with what is left where the trial ends. -/
def trial : (fuel : Nat) → (p n : Nat) → List Nat × Nat
  | 0, _, n => ([], n)
  | fuel + 1, p, n =>
    if n ≤ 1 then ([], n)
    else if n % p = 0 then
      let (factors, rest) := trial fuel p (n / p)
      (p :: factors, rest)
    else trial fuel (if p = 2 then 3 else p + 2) n

/-- The prime factors of a number in order. -/
def ofNumber (n : Nat) : List Nat :=
  if n = 0 then []
  else
    let (factors, rest) := trial 1000 2 n
    factors ++ (large (rest.log2 + 1) rest).mergeSort

/-- Read a positive number. -/
def read? (token : String) : Option Nat :=
  let cs := token.toList.dropWhile (· = ' ')
  Text.readDigits? (if cs.head? = some '+' then cs.drop 1 else cs)

/-- Tell the factors of what a text stands for. -/
def tell (token : String) : Task Bool := do
  match read? token with
  | none => refuse (inQuotes token ++ " is not a valid positive integer")
  | some n =>
    Task.printLine (" ".intercalate ((toString n ++ ":") :: (ofNumber n).map toString))
    return true

/-- The words of a text. -/
def tokens (cs : List Char) : List String :=
  let isBlank (c : Char) : Bool := c = ' ' || c = '\t' || c = '\n'
  ((cs.splitBy fun a b => !isBlank a && !isBlank b).filter fun w => !w.all isBlank).map String.ofList

end Factors

/-- Cut numbers into prime factors: `factor [number…]`. -/
def factor (args : List String) : Task Nat :=
  withOptions {} args fun a => do
    if !a.operands.isEmpty then return (← forOperands a.operands Factors.tell)
    let act (ok : Bool) (lines : List (List Char)) : Task Bool := do
      let done ← (Factors.tokens lines.flatten).mapM Factors.tell
      return ok && done.all id
    let (ok, _) ← eachRecord 0 '\n' act Task.patience [] true
    return if ok then 0 else 1

end CommandSpec.Utility
