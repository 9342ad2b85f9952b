import CommandSpec.Utility.Fraction

/-!
# Values

A value is a number, a text, or a text from the input that counts as a number where it looks like one. A
variable that was never set is both zero and empty. Numbers are binary numbers of 64 bits.
-/

namespace CommandSpec.Utility.Rules

/-! ## Numbers -/

/-- The number that a magnitude is. -/
def floatOf (isNegative : Bool) (m : Magnitude) : Float :=
  let x : Float := match m with
    | .finite significand exponent => Float.scaleB (Float.ofNat significand) exponent
    | .infinite => 1.0 / 0.0
    | .undefined => 0.0 / 0.0
  if isNegative then -x else x

/-- The sign and the magnitude of a number. -/
def magnitudeOf (x : Float) : Bool × Magnitude :=
  let bits := x.toBits.toNat
  let isNegative := bits / 2 ^ 63 = 1
  let exponent : Nat := bits / 2 ^ 52 % 2 ^ 11
  let fraction := bits % 2 ^ 52
  if exponent = 2047 then (isNegative || fraction ≠ 0, if fraction = 0 then .infinite else .undefined)
  else if exponent = 0 then (isNegative, .finite fraction (-1074))
  else (isNegative, .finite (fraction + 2 ^ 52) ((exponent : Int) - 1075))

/-- A number without its fraction, if it is finite. -/
def truncated? (x : Float) : Option Int :=
  match magnitudeOf x with
  | (isNegative, .finite significand exponent) =>
    let n : Nat := if 0 ≤ exponent then significand * 2 ^ exponent.toNat else significand / 2 ^ (-exponent).toNat
    some (if isNegative then -n else n)
  | _ => none

/-- The integer that a number is, if it is one. -/
def integer? (x : Float) : Option Int :=
  match magnitudeOf x with
  | (isNegative, .finite significand exponent) =>
    if 0 ≤ exponent then
      let n : Nat := significand * 2 ^ exponent.toNat
      some (if isNegative then -n else n)
    else
      let unit := 2 ^ (-exponent).toNat
      if significand % unit ≠ 0 then none
      else
        let n : Nat := significand / unit
        some (if isNegative then -n else n)
  | _ => none

/-- A number without its fraction, kept within some limits. -/
def truncatedWithin (low high : Int) (x : Float) : Int :=
  match truncated? x with
  | some n => max low (min high n)
  | none => if x < 0.0 then low else high

/-- The greatest integer that a number is used as. -/
def maxIndex : Int := 2 ^ 31 - 1

/-- A number as an index or a length. -/
def toIndex (x : Float) : Int :=
  truncatedWithin (-maxIndex) maxIndex x

/-- Whether a character is blank. -/
def isBlank (c : Char) : Bool :=
  c = ' ' || ('\t' ≤ c && c ≤ '\r')

/-- A sign at the head of a text, and the text after it. -/
def readSign : List Char → Bool × List Char
  | '-' :: cs => (true, cs)
  | '+' :: cs => (false, cs)
  | cs => (false, cs)

/-- The number that a numeral is. -/
def numeralValue (isNegative : Bool) : Numeral → Float
  | .quotient q => floatOf isNegative (Magnitude.nearest .double q).1
  | .infinite => floatOf isNegative .infinite
  | .undefined => floatOf isNegative .undefined

/-- The number at the head of a text, zero if there is none. -/
def leadingNumber (s : String) : Float :=
  let (isNegative, cs) := readSign (s.toList.dropWhile isBlank)
  ((readNumeral? cs).map fun (n, _) => numeralValue isNegative n).getD 0.0

/-- The number that a text looks like. -/
def wholeNumber? (s : String) : Option Float := do
  let cs := s.toList.dropWhile isBlank
  let cs := (cs.reverse.dropWhile isBlank).reverse
  let first ← cs.head?
  let last ← cs.getLast?
  guard (last.isDigit || last = '.')
  guard (first.isDigit || first = '+' || first = '-' || first = '.')
  let (isNegative, digits) := readSign cs
  let (n, rest) ← readNumeral? digits
  guard rest.isEmpty
  return numeralValue isNegative n

/-! ## Values -/

/-- A value. -/
inductive Value where
  /-- That of a variable that was never set. -/
  | unset
  | number (x : Float)
  | text (s : String)
  /-- A text from the input. -/
  | input (s : String)
  deriving Inhabited

namespace Value

/-- A truth value. -/
def ofBool (b : Bool) : Value :=
  number (if b then 1.0 else 0.0)

/-- A natural number. -/
def ofNat (n : Nat) : Value :=
  number (Float.ofNat n)

/-- An integer. -/
def ofInt (n : Int) : Value :=
  number (Float.ofInt n)

/-- The value as a number. -/
def toNumber : Value → Float
  | unset => 0.0
  | number x => x
  | text s => leadingNumber s
  | input s => leadingNumber s

/-- The number that the value is or looks like. -/
def number? : Value → Option Float
  | number x => some x
  | input s => wholeNumber? s
  | _ => none

/-- Whether the value counts as true. -/
def isTrue : Value → Bool
  | unset => false
  | number x => x != 0.0
  | text s => s ≠ ""
  | input s => (wholeNumber? s).elim (s ≠ "") (· != 0.0)

end Value

/-! ## Conversions -/

/-- The least and the greatest number that is written as an integer. -/
def integerBounds : Int × Int :=
  (-(2 ^ 63), 2 ^ 64 - 1)

/-- A conversion of a number: flags, a width, a precision and a letter. -/
structure NumberShape where
  flags : List Char := []
  width : Nat := 0
  precision : Option Nat := none
  letter : Char := 'g'
  deriving Inhabited

/-- Fill a text up to a width. -/
def NumberShape.fill (shape : NumberShape) (isFilled : Bool) (lead digits : List Char) : List Char :=
  let gap := shape.width - lead.length - digits.length
  if shape.flags.contains '-' then lead ++ digits ++ List.replicate gap ' '
  else if isFilled && shape.flags.contains '0' then lead ++ List.replicate gap '0' ++ digits
  else List.replicate gap ' ' ++ lead ++ digits

/-- What stands before a number for its sign. -/
def NumberShape.sign (shape : NumberShape) (isNegative : Bool) : List Char :=
  if isNegative then ['-'] else if shape.flags.contains '+' then ['+'] else if shape.flags.contains ' ' then [' '] else []

/-- A number with a fraction in a shape. -/
def NumberShape.writeFraction (shape : NumberShape) (x : Float) : List Char :=
  let (isNegative, m) := magnitudeOf x
  let (lead, digits) := m.write .double shape.letter.toLower (shape.flags.contains '#') shape.precision
  let isFinite := match m with
    | .finite .. => true
    | _ => false
  let cased (cs : List Char) : List Char := if shape.letter.isUpper then cs.map Char.toUpper else cs
  shape.fill isFinite (shape.sign isNegative ++ cased lead) (cased digits)

/-- An integer in a shape. -/
def NumberShape.writeInteger (shape : NumberShape) (n : Int) : List Char :=
  let base := if shape.letter = 'o' then 8 else if shape.letter.toLower = 'x' then 16 else 10
  let isSigned := shape.letter = 'd' || shape.letter = 'i'
  let size := if isSigned then n.natAbs else (n % 2 ^ 64).toNat
  let digits := (Nat.toDigits base size).map fun c => if shape.letter = 'X' then c.toUpper else c
  let digits := if shape.precision = some 0 && n = 0 then []
    else List.replicate (shape.precision.getD 1 - digits.length) '0' ++ digits
  let lead :=
    if isSigned then shape.sign (n < 0)
    else if !shape.flags.contains '#' then []
    else if base = 16 && size ≠ 0 then ['0', shape.letter]
    else if base = 8 && digits.head? ≠ some '0' then ['0']
    else []
  shape.fill shape.precision.isNone lead digits

/-- The shape and the texts around it in a format with one conversion, such as `%.6g`. -/
def readShape? (format : List Char) : Option (List Char × NumberShape × List Char) :=
  let before := format.takeWhile (· ≠ '%')
  match format.drop before.length with
  | '%' :: cs =>
    let flags := cs.takeWhile "-+ #0".toList.contains
    let cs := cs.drop flags.length
    let width := cs.takeWhile Char.isDigit
    let cs := cs.drop width.length
    let (precision, cs) : Option (List Char) × List Char := match cs with
      | '.' :: more => (some (more.takeWhile Char.isDigit), more.dropWhile Char.isDigit)
      | _ => (none, cs)
    match cs with
    | letter :: rest =>
      if "eEfFgGaAdioxXu".toList.contains letter then
        let number (digits : List Char) : Nat := Text.numberIn 10 digits
        some (before, { flags, width := number width, precision := precision.map number, letter }, rest)
      else none
    | [] => none
  | _ => none

/-- A number as a format with one conversion shows it. -/
def writeIn (format : String) (x : Float) : String :=
  match readShape? format.toList with
  | none => format
  | some (before, shape, rest) =>
    let shown := if "dioxXu".toList.contains shape.letter then
      shape.writeInteger (truncatedWithin integerBounds.1 integerBounds.2 x) else shape.writeFraction x
    .ofList (before ++ shown ++ rest)

/-- A number as a text: an integer by its digits, another number by a format. -/
def writeNumber (format : String) (x : Float) : String :=
  match integer? x with
  | some n => if integerBounds.1 ≤ n && n ≤ integerBounds.2 then toString n else writeIn format x
  | none => writeIn format x

/-- The value as a text; a format is for numbers that are no integers. -/
def Value.toText (format : String) : Value → String
  | unset => ""
  | number x => writeNumber format x
  | text s => s
  | input s => s

/-- How two values compare: as numbers if both are numbers or look like some, else as texts. -/
def Value.compare (format : String) (a b : Value) : Option Ordering :=
  let numbers (x y : Float) : Option Ordering :=
    if x < y then some .lt else if y < x then some .gt else if x == y then some .eq else none
  let texts : Option Ordering := some (Ord.compare (a.toText format) (b.toText format))
  match a, b with
  | .unset, .unset => some .eq
  | .unset, b =>
    match b.number? with
    | some y => numbers 0.0 y
    | none => texts
  | a, .unset =>
    match a.number? with
    | some x => numbers x 0.0
    | none => texts
  | a, b =>
    match a.number?, b.number? with
    | some x, some y => numbers x y
    | _, _ => texts

end CommandSpec.Utility.Rules
