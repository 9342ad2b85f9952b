import CommandSpec.Number
import CommandSpec.Text.Integer

/-!
# Numbers with a fraction

A number with a fraction is read as a quotient of natural numbers, without any loss, and then rounded
to the nearest number that a binary format can hold, a tie to the even one. It is written from the
binary number, again without loss up to the last digit asked for, which is rounded the same way.
-/

namespace CommandSpec.Utility

/-- A quotient of natural numbers. -/
structure Quotient where
  numerator : Nat
  denominator : Nat := 1
  deriving DecidableEq, Repr, Inhabited

namespace Quotient

/-- The quotient times a power. -/
def scale (base : Nat) (exponent : Int) (q : Quotient) : Quotient :=
  if 0 ≤ exponent then { q with numerator := q.numerator * base ^ exponent.toNat }
  else { q with denominator := q.denominator * base ^ (-exponent).toNat }

/-- The nearest natural number; of two of them the even one. -/
def round (q : Quotient) : Nat :=
  let low := q.numerator / q.denominator
  let twice := 2 * (q.numerator % q.denominator)
  if twice < q.denominator then low
  else if q.denominator < twice then low + 1
  else low + low % 2

/-- The exponent of the greatest power of a base that is not greater. -/
def logarithm (base : Nat) (q : Quotient) : Int :=
  let digits (n : Nat) : Int := (Nat.toDigits base n).length
  let high := digits q.numerator - digits q.denominator
  let power := Quotient.scale base high ⟨1, 1⟩
  if power.numerator * q.denominator ≤ q.numerator * power.denominator then high else high - 1

end Quotient

/-! ## Binary numbers -/

/-- How binary numbers are stored: a significand of so many bits times a power of two. -/
structure BinaryFormat where
  /-- How many bits the significand has. -/
  precision : Nat
  /-- The least exponent. -/
  least : Int
  /-- The exponent of the first power of two that is too great. -/
  limit : Int
  deriving DecidableEq, Repr, Inhabited

namespace BinaryFormat

/-- Numbers of 64 bits. -/
def double : BinaryFormat :=
  ⟨53, -1074, 1024⟩

/-- Numbers of 80 bits. -/
def extended : BinaryFormat :=
  ⟨64, -16445, 16384⟩

end BinaryFormat

/-- A stored number, apart from its sign. -/
inductive Magnitude where
  | finite (significand : Nat) (exponent : Int)
  | infinite
  | undefined
  deriving DecidableEq, Repr, Inhabited

namespace Magnitude

/-- The stored number nearest to a quotient, and whether it left the range of the format. -/
def nearest (f : BinaryFormat) (q : Quotient) : Magnitude × Bool :=
  if q.numerator = 0 then (finite 0 0, false)
  else
    let exponent := max f.least (q.logarithm 2 - (f.precision - 1 : Nat))
    let scaled := q.scale 2 (-exponent)
    let rounded := scaled.round
    let (significand, exponent) :=
      if rounded = 2 ^ f.precision then (rounded / 2, exponent + 1) else (rounded, exponent)
    if f.limit ≤ exponent + Nat.log2 significand then (infinite, true)
    else
      let isTiny := significand < 2 ^ (f.precision - 1)
      (finite significand exponent, isTiny && scaled.numerator % scaled.denominator ≠ 0)

end Magnitude

/-! ## Reading -/

/-- What a text says before it is stored. -/
inductive Numeral where
  | quotient (q : Quotient)
  | infinite
  | undefined
  deriving DecidableEq, Repr, Inhabited

/-- Exponents beyond this one are as good as this one. -/
def exponentBound : Nat := 100000

/-- The exponent at the head of a text after one of its marks, and the text after it; there is none
without a digit. -/
def readExponent (marks : List Char) (cs : List Char) : Int × List Char :=
  let read (sign : Int) (ds : List Char) : Int × List Char :=
    match ds.takeWhile Char.isDigit with
    | [] => (0, cs)
    | digits => (sign * (min exponentBound (Text.numberIn 10 digits) : Nat), ds.drop digits.length)
  match cs with
  | mark :: rest =>
    if !marks.contains mark then (0, cs)
    else
      match rest with
      | '-' :: ds => read (-1) ds
      | '+' :: ds => read 1 ds
      | ds => read 1 ds
  | [] => (0, cs)

/-- The digits in a base at the head of a text, with a point among them: their number, how many stand
after the point, and the text after them. -/
def readPointed? (base : Nat) (cs : List Char) : Option (Nat × Nat × List Char) :=
  let whole := cs.takeWhile (Text.isDigitIn base)
  let rest := cs.drop whole.length
  let fraction := match rest with
    | '.' :: more => more.takeWhile (Text.isDigitIn base)
    | _ => []
  if whole.isEmpty && fraction.isEmpty then none
  else
    let point := if rest.head? = some '.' then 1 else 0
    some (Text.numberIn base (whole ++ fraction), fraction.length, rest.drop (point + fraction.length))

/-- The name of a number at the head of a text, capitals or not. -/
def readNamed? (cs : List Char) : Option (Numeral × List Char) :=
  let startsWith (word : String) : Bool := (cs.take word.length).map Char.toLower = word.toList
  if startsWith "infinity" then some (.infinite, cs.drop 8)
  else if startsWith "inf" then some (.infinite, cs.drop 3)
  else if startsWith "nan" then
    let rest := cs.drop 3
    let inside := (rest.drop 1).takeWhile fun c => c.isAlphanum || c = '_'
    let after := rest.drop (1 + inside.length)
    if rest.head? = some '(' && after.head? = some ')' then some (.undefined, after.drop 1)
    else some (.undefined, rest)
  else none

/-- The numeral at the head of a text, and the text after it. -/
def readNumeral? (cs : List Char) : Option (Numeral × List Char) :=
  let decimal : Option (Numeral × List Char) := do
    let (digits, places, rest) ← readPointed? 10 cs
    let (exponent, rest) := readExponent ['e', 'E'] rest
    return (.quotient (Quotient.scale 10 (exponent - places) ⟨digits, 1⟩), rest)
  let hexadecimal : Option (Numeral × List Char) := do
    guard (cs.head? = some '0' && (cs[1]? = some 'x' || cs[1]? = some 'X'))
    let (digits, places, rest) ← readPointed? 16 (cs.drop 2)
    let (exponent, rest) := readExponent ['p', 'P'] rest
    return (.quotient (Quotient.scale 2 (exponent - 4 * places) ⟨digits, 1⟩), rest)
  (hexadecimal.or decimal).or (readNamed? cs)

/-! ## Writing -/

/-- Digits with a point before the last `places` of them; a point at the end only on request. -/
def withPoint (point : Bool) (places : Nat) (digits : List Char) : List Char :=
  let whole := digits.take (digits.length - places)
  let fraction := digits.drop (digits.length - places)
  whole ++ (if point || !fraction.isEmpty then ['.'] else []) ++ fraction

/-- How many digits a stored number has at most; all others are zeros. -/
def digitBound : Nat := 17000

/-- A quotient with so many digits after the point. -/
def showFixed (point : Bool) (places : Nat) (q : Quotient) : List Char :=
  let held := min places digitBound
  withPoint point held (Text.paddedDigits 10 (held + 1) (q.scale 10 held).round)
    ++ List.replicate (places - held) '0'

/-- A power as it stands after a mark. -/
def showExponent (mark : Char) (width : Nat) (exponent : Int) : List Char :=
  mark :: (if exponent < 0 then '-' else '+') :: Text.paddedDigits 10 width exponent.natAbs

/-- The first digits of a quotient, `places` of them after the first one, with its power of ten. -/
def firstDigits (places : Nat) (q : Quotient) : Nat × Int :=
  if q.numerator = 0 then (0, 0)
  else
    let exponent := q.logarithm 10
    let digits := (q.scale 10 (places - exponent)).round
    if digits = 10 ^ (places + 1) then (digits / 10, exponent + 1) else (digits, exponent)

/-- A quotient with one digit before the point, so many after it and a power of ten. -/
def showScientific (point : Bool) (places : Nat) (q : Quotient) : List Char :=
  let held := min places digitBound
  let (digits, exponent) := firstDigits held q
  withPoint point held (Text.paddedDigits 10 (held + 1) digits) ++ List.replicate (places - held) '0'
    ++ showExponent 'e' 2 exponent

/-- A text without the zeros at the end of its fraction, and without a point at its end. -/
def dropZeros (cs : List Char) : List Char :=
  if cs.contains '.' then ((cs.reverse.dropWhile (· = '0')).dropWhile (· = '.')).reverse else cs

/-- A quotient with so many digits in all, with a power of ten if it is very small or too great. -/
def showGeneral (full : Bool) (count : Nat) (q : Quotient) : List Char :=
  let count := max 1 (min digitBound count)
  let (digits, exponent) := firstDigits (count - 1) q
  let finish (cs : List Char) : List Char := if full then cs else dropZeros cs
  if -4 ≤ exponent && exponent < count then
    finish (showFixed full (count - 1 - exponent).toNat q)
  else
    finish (withPoint full (count - 1) (Text.paddedDigits 10 count digits)) ++ showExponent 'e' 2 exponent

/-- A binary number in base 16 with a power of two; without `places` there are as many digits after
the point as are needed. -/
def showHexadecimal (f : BinaryFormat) (point : Bool) (places : Option Nat) (significand : Nat)
    (exponent : Int) : List Char :=
  let held := (f.precision - 1) / 4
  let exponent := if significand = 0 then 0 else exponent + 4 * held
  let shown := min (places.getD held) digitBound
  let rounded := (Quotient.scale 16 (shown - held) ⟨significand, 1⟩).round
  let (rounded, exponent) :=
    if rounded = 16 ^ (shown + 1) then (rounded / 16, exponent + 4) else (rounded, exponent)
  let digits := withPoint point shown (Text.paddedDigits 16 (shown + 1) rounded)
  let digits := if places.isSome then digits ++ List.replicate (places.getD 0 - shown) '0'
    else dropZeros digits ++ if point && !(dropZeros digits).contains '.' then ['.'] else []
  digits ++ showExponent 'p' 1 exponent

namespace Magnitude

/-- The quotient that a stored number is. -/
def quotient (significand : Nat) (exponent : Int) : Quotient :=
  Quotient.scale 2 exponent ⟨significand, 1⟩

/-- A stored number in the way that the small letter of a conversion asks for; what stands before its
digits comes first. -/
def write (f : BinaryFormat) (letter : Char) (full : Bool) (precision : Option Nat) :
    Magnitude → List Char × List Char
  | infinite => ([], "inf".toList)
  | undefined => ([], "nan".toList)
  | finite significand exponent =>
    let q := quotient significand exponent
    let places := precision.getD 6
    match letter with
    | 'a' => (['0', 'x'], showHexadecimal f full precision significand exponent)
    | 'e' => ([], showScientific full places q)
    | 'g' => ([], showGeneral full places q)
    | _ => ([], showFixed full places q)

end Magnitude

end CommandSpec.Utility
