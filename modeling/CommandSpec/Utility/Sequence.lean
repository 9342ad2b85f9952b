import CommandSpec.Utility.Arguments
import CommandSpec.Utility.Fraction

/-!
# `seq`

`seq` writes the numbers from a first to a last one, step by step. Numbers are read as quotients. As
long as none of the numbers asks for more, they are written with the digits after the point that the
operands have, which takes integers only. With a format of their own, or when an operand is no decimal
number, they are rounded as stored numbers are.
-/

namespace CommandSpec.Utility

/-- A number with a sign, as a numerator over a denominator that is not zero. -/
structure Ratio where
  numerator : Int
  denominator : Nat := 1
  deriving DecidableEq, Repr, Inhabited

namespace Ratio

/-- The sum of two numbers. -/
def add (a b : Ratio) : Ratio :=
  ⟨a.numerator * b.denominator + b.numerator * a.denominator, a.denominator * b.denominator⟩

/-- The number taken so often. -/
def times (n : Nat) (a : Ratio) : Ratio :=
  ⟨n * a.numerator, a.denominator⟩

/-- Whether a number is less than another. -/
def less (a b : Ratio) : Bool :=
  a.numerator * b.denominator < b.numerator * a.denominator

/-- Whether two numbers are the same. -/
def same (a b : Ratio) : Bool :=
  !a.less b && !b.less a

/-- The stored number nearest to a number. -/
def stored (f : BinaryFormat) (a : Ratio) : Magnitude :=
  (Magnitude.nearest f ⟨a.numerator.natAbs, a.denominator⟩).1

/-- The number rounded to the nearest one that can be stored. -/
def rounded (f : BinaryFormat) (a : Ratio) : Ratio :=
  match a.stored f with
  | .finite significand exponent =>
    let q := Magnitude.quotient significand exponent
    ⟨if a.numerator < 0 then -q.numerator else q.numerator, q.denominator⟩
  | _ => a

end Ratio

/-- An operand of `seq`. -/
structure SequenceOperand where
  /-- The number, unless it is infinite. -/
  value : Option Ratio
  isNegative : Bool := false
  /-- How many digits it has after the point, if it is a decimal number. -/
  places : Option Nat := some 0
  /-- How many characters it takes. -/
  width : Nat := 1
  deriving Inhabited

namespace SequenceOperand

/-- The operand that is 1. -/
def one : SequenceOperand :=
  { value := some ⟨1, 1⟩ }

/-- The operand without its infinity. -/
def number (o : SequenceOperand) : Ratio :=
  o.value.getD ⟨0, 1⟩

/-- The width and the digits after the point of a decimal number with an exponent, found from its
text. -/
def measure (cs : List Char) : Nat × Option Nat :=
  let isMark (c : Char) : Bool := c = 'e' || c = 'E'
  let mantissa := cs.takeWhile (!isMark ·)
  let whole := mantissa.takeWhile (· ≠ '.')
  let fraction := (mantissa.drop whole.length).drop 1
  let hasPoint := whole.length < mantissa.length
  let lacksDigit := !(whole.getLast?.any Char.isDigit)
  let width := if !hasPoint then mantissa.length
    else if fraction.isEmpty then mantissa.length - 1
    else mantissa.length + if lacksDigit then 1 else 0
  if mantissa.length = cs.length then (width, some fraction.length)
  else
    let digits := (cs.drop (mantissa.length + 1)).filter Char.isDigit
    let exponent := min exponentBound (Text.numberIn 10 digits)
    if cs.contains '-' && (cs.drop mantissa.length)[1]? = some '-' then
      let extra := if !hasPoint || fraction.isEmpty then 1 else 0
      (width + extra + exponent, some (fraction.length + exponent))
    else (width + exponent, some (fraction.length - exponent))

/-- Read an operand, or tell what kind of argument it is not. -/
def read (s : String) : Except String SequenceOperand := do
  let isSpace (c : Char) : Bool := c = ' ' || ('\t' ≤ c && c ≤ '\r')
  let cs := s.toList.dropWhile isSpace
  let isNegative := cs.head? = some '-'
  let unsigned := if isNegative || cs.head? = some '+' then cs.drop 1 else cs
  let shown := cs.dropWhile fun c => isSpace c || c = '+'
  match readNumeral? unsigned with
  | some (.undefined, []) => throw "not-a-number"
  | some (.infinite, []) => return { value := none, isNegative, places := some 0, width := 0 }
  | some (.quotient q, []) =>
    let value := some ⟨if isNegative then -q.numerator else q.numerator, q.denominator⟩
    if shown.any fun c => c = 'x' || c = 'X' then
      let isWhole := !shown.contains '.' && !shown.contains 'p'
      return { value, isNegative, places := if isWhole then some 0 else none, width := 0 }
    let (width, places) := measure shown
    return { value, isNegative, places, width }
  | _ => throw "floating point"

end SequenceOperand

/-! ## Formats -/

/-- A format for numbers: texts around one conversion. -/
structure NumberFormat where
  before : List Char := []
  flags : List Char := []
  width : Nat := 0
  precision : Option Nat := none
  letter : Char := 'g'
  after : List Char := []
  deriving Repr, Inhabited

namespace NumberFormat

/-- The text up to the first conversion, with `%%` for a percent sign, and the text from it on. -/
def plainText : List Char → List Char × List Char
  | '%' :: '%' :: cs =>
    let (text, rest) := plainText cs
    ('%' :: text, rest)
  | '%' :: cs => ([], '%' :: cs)
  | c :: cs =>
    let (text, rest) := plainText cs
    (c :: text, rest)
  | [] => ([], [])

/-- Read a format, or tell what is wrong with it. -/
def read (s : String) : Except String NumberFormat := do
  let wrong (what : String) : Except String NumberFormat :=
    .error ("format " ++ inQuotes s ++ " " ++ what)
  let (before, rest) := plainText s.toList
  match rest with
  | '%' :: cs =>
    let flags := cs.takeWhile "-+#0 '".toList.contains
    let cs := cs.drop flags.length
    let width := cs.takeWhile Char.isDigit
    let cs := cs.drop width.length
    let (precision, cs) := match cs with
      | '.' :: more =>
        (some (Text.numberIn 10 (more.takeWhile Char.isDigit)), more.dropWhile Char.isDigit)
      | cs => (none, cs)
    let cs := if cs.head? = some 'L' then cs.drop 1 else cs
    match cs with
    | [] => wrong "ends in %"
    | letter :: cs =>
      if !"efgaEFGA".toList.contains letter then
        wrong ("has unknown %" ++ letter.toString ++ " directive")
      else
        let (after, rest) := plainText cs
        if rest.isEmpty then
          return { before, flags, width := Text.numberIn 10 width, precision, letter, after }
        else wrong "has too many % directives"
  | _ => wrong "has no % directive"

/-- A sign and digits with the flags and the width of the format, and the texts around it. -/
def dress (f : NumberFormat) (isNegative : Bool) (lead digits : List Char) : List Char :=
  let sign := if isNegative then ['-'] else if f.flags.contains '+' then ['+']
    else if f.flags.contains ' ' then [' '] else []
  let missing := f.width - (sign.length + lead.length + digits.length)
  let body := if f.flags.contains '-' then sign ++ lead ++ digits ++ List.replicate missing ' '
    else if f.flags.contains '0' then sign ++ lead ++ List.replicate missing '0' ++ digits
    else List.replicate missing ' ' ++ sign ++ lead ++ digits
  f.before ++ body ++ f.after

/-- A number as it is stored and written; `isNegative` is the sign that zero has too. -/
def write (f : NumberFormat) (isNegative : Bool) (x : Ratio) : List Char :=
  let (lead, digits) := (x.stored .extended).write .extended f.letter.toLower (f.flags.contains '#') f.precision
  let cased (cs : List Char) : List Char := if f.letter.isUpper then cs.map Char.toUpper else cs
  f.dress isNegative (cased lead) (cased digits)

/-- The digits of the number in the text that a format makes of it, read back. -/
def readBack? (f : NumberFormat) (text : List Char) : Option Ratio := do
  let body := (text.drop f.before.length).take (text.length - f.before.length - f.after.length)
  match SequenceOperand.read (.ofList body) with
  | .ok o => o.value
  | .error _ => none

end NumberFormat

/-! ## Writing -/

/-- A sequence: where it starts and how it goes on. -/
structure NumberSequence where
  first : SequenceOperand := .one
  step : SequenceOperand := .one
  last : SequenceOperand
  deriving Inhabited

namespace NumberSequence

/-- The digits after the point that all numbers are written with, if that is all they take. -/
def places? (s : NumberSequence) : Option Nat := do
  let _ ← s.last.places
  return max (← s.first.places) (← s.step.places)

/-- The width that makes all numbers equally wide. -/
def width (s : NumberSequence) (places : Nat) : Nat :=
  let own (o : SequenceOperand) : Nat := o.places.getD 0
  let first := s.first.width + (places - own s.first) + if own s.first = 0 && places > 0 then 1 else 0
  let last := s.last.width + places - own s.last
  let last := if own s.last > 0 && places = 0 then last - 1
    else if own s.last = 0 && places > 0 then last + 1 else last
  max first last

/-- Whether a number is beyond the last one. -/
def isPast (s : NumberSequence) (x : Ratio) : Bool :=
  match s.last.value with
  | some last => if s.step.isNegative then x.less last else last.less x
  | none => s.step.isNegative ≠ s.last.isNegative

/-- A number in units of the last place, as decimal digits with a point. -/
def writeUnits (places width : Nat) (negativeZero : Bool) (n : Int) : List Char :=
  let digits := withPoint false places (Text.paddedDigits 10 (places + 1) n.natAbs)
  { flags := ['0'], width : NumberFormat }.dress (n < 0 || (negativeZero && n = 0)) [] digits

/-- Write numbers in units of the last place, after a separator unless they are the first ones: many at
once, until one is past `isPast`; at most `fuel` times as many. -/
def writeIntegers (places width : Nat) (separator : String) (isPast : Int → Bool) (step : Int) :
    (fuel : Nat) → (isFirst negativeZero : Bool) → Int → Task Unit
  | 0, _, _, _ => return
  | fuel + 1, isFirst, negativeZero, n => do
    let ahead := (List.range 1024).map fun (k : Nat) => n + step * k
    let shown := ahead.takeWhile (!isPast ·)
    let texts := shown.map fun m =>
      separator.toList ++ writeUnits places width (negativeZero && m = n) m
    Task.print (.ofList (texts.flatten.drop (if isFirst then separator.length else 0)))
    if shown.length < ahead.length || (← Task.isRefused) then return
    writeIntegers places width separator isPast step fuel false false (n + step * 1024)

/-- Write numbers that are rounded as stored numbers are; `before` is the number written last, and `k`
the count of those written. At most `fuel` of them. -/
def writeRounded (s : NumberSequence) (f : NumberFormat) (separator : String) (first step : Ratio) :
    (fuel : Nat) → (k : Nat) → (before : List Char) → Task Unit
  | 0, _, _ => return
  | fuel + 1, k, before => do
    let x := (first.add ((step.times k).rounded .extended)).rounded .extended
    let text := f.write (x.numerator < 0) x
    let isLast := s.isPast x
    if isLast then
      let printsLast := match f.readBack? text, s.last.value with
        | some shown, some last => shown.same last
        | _, _ => false
      if printsLast && text ≠ before then Task.print (separator ++ .ofList text)
    else
      Task.print (separator ++ .ofList text)
      if ← Task.isRefused then return
      writeRounded s f separator first step fuel (k + 1) text

/-- Write a sequence, in a format if one is given. -/
def write (s : NumberSequence) (format? : Option NumberFormat) (separator : String) (equalWidth : Bool) :
    Task Unit := do
  let first := s.first.number
  if s.isPast first || s.first.value.isNone then return
  match format?, s.places?, s.step.value with
  | none, some places, some step =>
    let unit : Nat := 10 ^ places
    let units (x : Ratio) : Int := x.numerator * unit / x.denominator
    let width := if equalWidth then s.width places else 0
    let isPast (n : Int) : Bool := s.isPast ⟨n, unit⟩
    writeIntegers places width separator isPast (units step) Task.patience true s.first.isNegative
      (units first)
  | _, _, step? =>
    let f := format?.getD {}
    let text := f.write s.first.isNegative (first.rounded .extended)
    Task.print (.ofList text)
    if let some step := step? then
      writeRounded s f separator (first.rounded .extended) (step.rounded .extended) Task.patience 1 text
  Task.print "\n"

end NumberSequence

/-- Whether an argument is a negative number and no option. -/
def isNegativeNumber (arg : String) : Bool :=
  match arg.toList with
  | '-' :: c :: _ => c.isDigit || c = '.'
  | _ => false

/-- The sequence that operands tell, or what is wrong with them. -/
def readSequence (operands : List String) : Except String NumberSequence := do
  let read (s : String) : Except String SequenceOperand :=
    (SequenceOperand.read s).mapError fun kind =>
      "invalid " ++ (if kind = "floating point" then kind else inQuotes kind) ++ " argument: " ++ inQuotes s
  match operands with
  | [] => throw "missing operand"
  | [last] => return { last := ← read last }
  | [first, last] => return { first := ← read first, last := ← read last }
  | [first, step, last] =>
    let first ← read first
    let increment ← read step
    if increment.value.any fun x => x.numerator = 0 then
      throw ("invalid Zero increment value: " ++ inQuotes step)
    return { first, step := increment, last := ← read last }
  | _ :: _ :: _ :: extra :: _ => throw ("extra operand " ++ inQuotes extra)

/-- Write numbers in order: `seq [-w] [-f format] [-s separator] [first [step]] last`. -/
def seq (args : List String) : Task Nat := do
  let options := args.takeWhile (!isNegativeNumber ·)
  let table : OptionTable :=
    { flags := "w", valued := "fs", ordered := true
      names := [("separator", "s"), ("equal-width", "w"), ("format", "f")] }
  withOptions table options fun a => do
    let format? := (a.value? "f").map NumberFormat.read
    match format? with
    | some (.error complaint) =>
      Task.complain complaint
      return 1
    | _ =>
      if format?.isSome && a.has "w" then
        return (← misuse "format string may not be specified when printing equal width strings" 1)
      match readSequence (a.operands ++ args.drop options.length) with
      | .error complaint => misuse complaint 1
      | .ok s =>
        s.write (format?.bind Except.toOption) ((a.value? "s").getD "\n") (a.has "w")
        return 0

end CommandSpec.Utility
