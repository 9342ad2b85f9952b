import CommandSpec.Text.Integer
import CommandSpec.Utility.Arguments
import CommandSpec.Utility.Escape
import CommandSpec.Utility.Fraction

/-!
# `printf`

A format is read once into pieces: literal text and conversions. The pieces are then written with
the arguments, again and again while arguments are left. A missing argument counts as the empty
text or as zero.
-/

namespace CommandSpec.Utility

/-- A number in a conversion: absent, given, or taken from the arguments. -/
inductive Measure where
  | absent
  | given (n : Nat)
  | argument
  deriving DecidableEq, Repr, Inhabited

/-- One conversion, such as `%-5s`. -/
structure Conversion where
  flags : List Char := []
  width : Measure := .absent
  precision : Measure := .absent
  letter : Char
  deriving Repr, Inhabited

/-- A piece of a format. -/
inductive FormatPiece where
  | text (s : List Char)
  | conversion (c : Conversion)
  /-- The end of all output (`\c`). -/
  | stop
  /-- An escape that is none, which ends all output. -/
  | badEscape (f : EscapeFault)
  /-- A conversion that is unknown, or cut off when `cut` is set. -/
  | bad (s : List Char) (cut : Bool) (width precision : Measure)
  deriving Repr, Inhabited

/-- What a shell's own `printf` and the program of that name do differently. -/
structure PrintfDialect where
  escapes : EscapeRules
  /-- Whether it is the shell's own. -/
  inShell : Bool
  /-- Letters before the letter of a conversion that mean nothing. -/
  modifiers : List Char
  /-- How numbers with a fraction are stored. -/
  format : BinaryFormat
  deriving Inhabited

/-- The shell's own `printf`. -/
def shellPrintf : PrintfDialect :=
  ⟨{}, true, [], .double⟩

/-- The program `printf`. -/
def programPrintf (charset : Charset) : PrintfDialect :=
  ⟨{ hexadecimal := true, quote := true, unicode := some charset }, false, "hlLjzt".toList, .extended⟩

/-! ## Reading a format -/

/-- A measure at the start of a text, and the text after it. -/
def readMeasure : List Char → Measure × List Char
  | '*' :: cs => (.argument, cs)
  | cs =>
    match cs.takeWhile Char.isDigit with
    | [] => (.absent, cs)
    | digits => (.given (Text.digitsValue digits), cs.dropWhile Char.isDigit)

/-- Whether the flags and measures of a conversion go with its letter; a shell takes all of them. -/
def PrintfDialect.allows (d : PrintfDialect) (flags : List Char) (width precision : Measure)
    (letter : Char) : Bool :=
  let forbidden :=
    (if flags.contains '#' then "cdisu" else "") ++ (if flags.contains '0' then "cs" else "")
      ++ (if precision = .absent then "" else "c")
      ++ (if flags.isEmpty && width = .absent && precision = .absent then "" else "b")
  d.inShell || !forbidden.toList.contains letter

/-- The conversion after a `%`, and the text after it. -/
def readConversion (d : PrintfDialect) (cs : List Char) : FormatPiece × List Char :=
  let isFlag (c : Char) := "-+ 0#".toList.contains c
  let flags := cs.takeWhile isFlag
  let (width, rest) := readMeasure (cs.dropWhile isFlag)
  let (precision, rest) : Measure × List Char := match rest with
    | '.' :: more =>
      match readMeasure more with
      | (.absent, more) => (.given 0, more)
      | found => found
    | _ => (.absent, rest)
  match rest.dropWhile d.modifiers.contains with
  | letter :: rest =>
    let isKnown := "diouxXcsbaAeEfFgG".toList.contains letter
    if isKnown && d.allows flags width precision letter then
      (.conversion { flags, width, precision, letter }, rest)
    else (.bad ('%' :: cs.take (cs.length - rest.length)) false width precision, rest)
  | [] => (.bad ('%' :: cs) true width precision, [])

/-- The pieces of a format; `fuel` bounds their number. -/
def readFormat (d : PrintfDialect) : (fuel : Nat) → List Char → List FormatPiece
  | 0, _ => []
  | _ + 1, [] => []
  | fuel + 1, '%' :: '%' :: cs => .text ['%'] :: readFormat d fuel cs
  | fuel + 1, '%' :: 'q' :: cs =>
    if d.inShell then [.bad ['%', 'q'] false .absent .absent]
    else .conversion { letter := 'q' } :: readFormat d fuel cs
  | fuel + 1, '%' :: cs =>
    let (piece, rest) := readConversion d cs
    piece :: readFormat d fuel rest
  | fuel + 1, '\\' :: cs =>
    if !d.inShell && cs.head? = some 'c' then [.stop]
    else
      match d.escapes.escape cs with
      | .ok (e, n) => .text e :: readFormat d fuel (cs.drop n)
      | .error f => [.badEscape f]
  | fuel + 1, cs =>
    let plain (c : Char) := c ≠ '%' && c ≠ '\\'
    .text (cs.takeWhile plain) :: readFormat d fuel (cs.dropWhile plain)

/-! ## Numeric arguments -/

/-- What can be wrong with a numeric argument. -/
inductive NumberFault where
  | noNumber
  | moreAfter
  | outOfRange
  /-- Characters after one that stands for its code. -/
  | ignored (rest : String)
  deriving DecidableEq, Repr

/-- The digits at the start of a text with the base they are in, which is 16 after `0x`, 8 after `0`
and else 10; and the text after them. -/
def leadingNumeral (cs : List Char) : Nat × List Char × List Char :=
  let split (base : Nat) (cs : List Char) : Nat × List Char × List Char :=
    let digits := cs.takeWhile (Text.isDigitIn base)
    (base, digits, cs.drop digits.length)
  match cs with
  | '0' :: x :: c :: ds =>
    if (x = 'x' || x = 'X') && Text.isDigitIn 16 c then split 16 (c :: ds) else split 8 cs
  | '0' :: _ => split 8 cs
  | _ => split 10 cs

/-- The text after blanks and a sign, and whether the sign is a minus. -/
def afterSign (s : String) : Bool × List Char :=
  match s.toList.dropWhile fun c => c = ' ' || ('\t' ≤ c && c ≤ '\r') with
  | '-' :: cs => (true, cs)
  | '+' :: cs => (false, cs)
  | cs => (false, cs)

/-- The number that a numeric argument stands for by a quote before a character, and the characters
after that one. A quote alone stands for zero in a shell. -/
def characterCode? (d : PrintfDialect) (s : String) : Option (Nat × List Char) :=
  match s.toList with
  | quote :: cs =>
    if quote ≠ '\x27' && quote ≠ '"' then none
    else
      match cs with
      | c :: more =>
        match d.escapes.unicode, Utf8.lengthAt? cs with
        | some .utf8, some (c, n) => some (c.toNat, cs.drop n)
        | _, _ => some (c.toNat, more)
      | [] => if d.inShell then some (0, []) else none
  | [] => none

/-- What is wrong with a numeric argument of which `rest` was not read, or which is `outOfRange`. -/
def numberFault? (d : PrintfDialect) (s : String) (number : Bool) (rest : List Char)
    (outOfRange : Bool) : Option NumberFault :=
  let reading :=
    if !number then (if s = "" then none else some NumberFault.noNumber)
    else if rest.isEmpty then none
    else some .moreAfter
  let range := if outOfRange then some NumberFault.outOfRange else none
  if d.inShell then reading.or range else range.or reading

/-- A number of 64 bits with a sign that is as near to another one as can be. -/
def keepSigned (n : Int) : Int :=
  max (-2 ^ 63) (min (2 ^ 63 - 1) n)

/-- A number of 64 bits without a sign, or the negative of one; what is too great in either direction
counts as the greatest. -/
def keepUnsigned (n : Int) : Int :=
  if n.natAbs < 2 ^ 64 then n else 2 ^ 64 - 1

/-- An integer argument kept in range, and what is wrong with it. The empty text stands for zero. -/
def integerArgument (d : PrintfDialect) (keep : Int → Int) (s : String) : Int × Option NumberFault :=
  match characterCode? d s with
  | some (code, more) => (code, if d.inShell || more.isEmpty then none else some (.ignored (.ofList more)))
  | none =>
    let (isNegative, cs) := afterSign s
    let (base, digits, rest) := leadingNumeral cs
    let n : Int := Text.numberIn base digits
    let n := if isNegative then -n else n
    let kept := keep n
    (kept, numberFault? d s (!digits.isEmpty) rest (kept ≠ n))

/-- An argument with a fraction, as its sign and a stored number, and what is wrong with it. -/
def fractionArgument (d : PrintfDialect) (s : String) : Bool × Magnitude × Option NumberFault :=
  match characterCode? d s with
  | some (code, more) =>
    (false, (Magnitude.nearest d.format ⟨code, 1⟩).1,
      if d.inShell || more.isEmpty then none else some (.ignored (.ofList more)))
  | none =>
    let (isNegative, cs) := afterSign s
    match readNumeral? cs with
    | none => (false, .finite 0 0, numberFault? d s false [] false)
    | some (.infinite, rest) => (isNegative, .infinite, numberFault? d s true rest false)
    | some (.undefined, rest) => (isNegative, .undefined, numberFault? d s true rest false)
    | some (.quotient q, rest) =>
      let (magnitude, outOfRange) := Magnitude.nearest d.format q
      (isNegative, magnitude, numberFault? d s true rest outOfRange)

/-! ## Faults -/

/-- Something that `printf` complains about. -/
inductive PrintfFault where
  | number (argument : String) (fault : NumberFault)
  | escape (f : EscapeFault)
  | directive (s : String)
  | cutOff (s : String)
  /-- A measure out of range, with what it measures. -/
  | measure (what argument : String)
  | excess (argument : String)
  deriving DecidableEq, Repr

namespace PrintfFault

/-- How the shell words a fault; left over arguments are none to it. -/
def shellWording : PrintfFault → String
  | .number s .noNumber => s ++ ": expected numeric value"
  | .number s .moreAfter => s ++ ": not completely converted"
  | .number s .outOfRange => s ++ ": Numerical result out of range"
  | .number _ (.ignored _) => ""
  | .escape f => f.message
  | .directive s => s ++ ": invalid directive"
  | .cutOff _ => "missing format character"
  | .measure _ _ => ""
  | .excess _ => ""

/-- How the program words a fault. -/
def programWording : PrintfFault → String
  | .number s .noNumber => inQuotes s ++ ": expected a numeric value"
  | .number s .moreAfter => inQuotes s ++ ": value not completely converted"
  | .number s .outOfRange => inQuotes s ++ ": Numerical result out of range"
  | .number _ (.ignored rest) =>
    "warning: " ++ rest ++ ": character(s) following character constant have been ignored"
  | .escape f => f.message
  | .directive s => s ++ ": invalid conversion specification"
  | .cutOff s => s ++ ": invalid conversion specification"
  | .measure what s => "invalid " ++ what ++ ": " ++ inQuotes s
  | .excess s => "warning: ignoring excess arguments, starting with " ++ inQuotes s

/-- The status that a fault makes `printf` end with. -/
def status (inShell : Bool) : PrintfFault → Nat
  | .number _ (.ignored _) => 0
  | .number _ _ => 1
  | .escape _ => 1
  | .directive _ => if inShell then 2 else 1
  | .cutOff _ => if inShell then 2 else 1
  | .measure _ _ => 1
  | .excess _ => 0

end PrintfFault

/-! ## Writing -/

/-- A text filled up to a width with a character, before it or after it. -/
def pad (left : Bool) (fill : Char) (width : Nat) (s : List Char) : List Char :=
  let filling := List.replicate (width - s.length) fill
  if left then s ++ filling else filling ++ s

/-- What comes out of a run over the pieces. -/
inductive Emitted where
  | text (s : List Char)
  | fault (f : PrintfFault)
  deriving DecidableEq, Repr

/-- What a run over the pieces has produced, the latest first. -/
structure Formatted where
  output : List Emitted := []
  args : List String
  stopped : Bool := false
  deriving Inhabited

namespace Formatted

/-- The run with one more thing that came out of it. -/
def emit (st : Formatted) (e : Emitted) : Formatted :=
  { st with output := e :: st.output }

/-- The run with the next argument taken, and with what is wrong with that. -/
def take (st : Formatted) (fault? : Option NumberFault) : Formatted :=
  let st := fault?.elim st fun f => st.emit (.fault (.number (st.args.headD "") f))
  { st with args := st.args.tail }

/-- The greatest measure; greater ones count as this one. -/
def bound : Int := 4000000

/-- The value of a measure and the run after it. The shell takes 32 bits of an argument; to the program
what is out of range is a fault, but all negative precisions are alike. -/
def measure (d : PrintfDialect) (what : String) (isPrecision : Bool) (st : Formatted) :
    Measure → Option Int × Formatted
  | .absent => (none, st)
  | .given n => (some (min bound n), st)
  | .argument =>
    let arg := st.args.headD "0"
    let (n, fault?) := integerArgument d keepSigned arg
    let n := if d.inShell then n.bmod (2 ^ 32) else if isPrecision then max (-1) n else n
    let st := st.take fault?
    if n < -2 ^ 31 || 2 ^ 31 ≤ n then
      (none, { st.emit (.fault (.measure what arg)) with stopped := true })
    else (some (max (-bound) (min bound n)), st)

/-- The values of a width and a precision, and the run after them. -/
def measures (d : PrintfDialect) (st : Formatted) (width precision : Measure) :
    Option Int × Option Int × Formatted :=
  let (width, st) := st.measure d "field width" false width
  if st.stopped then (none, none, st)
  else
    let (precision, st) := st.measure d "precision" true precision
    (width, precision, st)

end Formatted

/-- What stands before the digits of a number for its sign. -/
def signFor (flags : List Char) (isNegative : Bool) : List Char :=
  if isNegative then ['-'] else if flags.contains '+' then ['+']
  else if flags.contains ' ' then [' '] else []

/-- A signed number with its digits filled up to a precision. -/
def signed (flags : List Char) (precision : Option Nat) (n : Int) : List Char × List Char :=
  let digits := pad false '0' (precision.getD 1) (Nat.toDigits 10 n.natAbs)
  (signFor flags (n < 0), if precision = some 0 && n = 0 then [] else digits)

/-- A number without sign in a base; negative ones count from 2^64 down. -/
def unsigned (base : Nat) (flags : List Char) (precision : Option Nat) (letter : Char) (n : Int) :
    List Char × List Char :=
  let value := (n % 2 ^ 64).toNat
  let digits := (Nat.toDigits base value).map fun c => if letter = 'X' then c.toUpper else c
  let digits := if precision = some 0 && n = 0 then [] else pad false '0' (precision.getD 1) digits
  let lead :=
    if !flags.contains '#' then []
    else if base = 16 && value ≠ 0 then ['0', letter]
    else if base = 8 && digits.head? ≠ some '0' then ['0']
    else []
  (lead, digits)

/-- Write one conversion by its width and its precision. -/
def convertMeasured (d : PrintfDialect) (c : Conversion) (width precision : Option Int)
    (st : Formatted) : Formatted :=
  let left := c.flags.contains '-' || width.any (· < 0)
  let width := (width.getD 0).natAbs
  let precision := (precision.filter (0 ≤ ·)).map Int.toNat
  let arg := st.args.headD ""
  let put (st : Formatted) (s : List Char) : Formatted := st.emit (.text (pad left ' ' width s))
  let putDigits (st : Formatted) (filled : Bool) (lead digits : List Char) : Formatted :=
    let zeros := if filled && c.flags.contains '0' && !left then
      width - lead.length - digits.length else 0
    put st (lead ++ List.replicate zeros '0' ++ digits)
  let putInteger (keep : Int → Int) (render : Int → List Char × List Char) : Formatted :=
    let (n, fault?) := integerArgument d keep arg
    let (lead, digits) := render n
    putDigits (st.take fault?) (precision = none) lead digits
  let putUnsigned (base : Nat) : Formatted :=
    putInteger keepUnsigned (unsigned base c.flags precision c.letter)
  let putFraction : Formatted :=
    let (isNegative, magnitude, fault?) := fractionArgument d arg
    let (lead, digits) :=
      magnitude.write d.format c.letter.toLower (c.flags.contains '#') precision
    let isFinite := match magnitude with
      | .finite _ _ => true
      | _ => false
    let cased (cs : List Char) : List Char := if c.letter.isUpper then cs.map Char.toUpper else cs
    putDigits (st.take fault?) isFinite (signFor c.flags isNegative ++ cased lead) (cased digits)
  match c.letter with
  | 'c' => put (st.take none) [arg.toList.headD (Char.ofNat 0)]
  | 's' => put (st.take none) (precision.elim arg.toList arg.toList.take)
  | 'q' => put (st.take none) (forShell arg).toList
  | 'b' =>
    let (s, ending) := d.escapes.unescape arg
    let st := put (st.take none) (precision.elim s.toList s.toList.take)
    match ending with
    | .plain => st
    | .stop => { st with stopped := true }
    | .fault f => { st.emit (.fault (.escape f)) with stopped := true }
  | 'o' => putUnsigned 8
  | 'u' => putUnsigned 10
  | 'x' => putUnsigned 16
  | 'X' => putUnsigned 16
  | 'd' => putInteger keepSigned (signed c.flags precision)
  | 'i' => putInteger keepSigned (signed c.flags precision)
  | _ => putFraction

/-- Write one conversion. -/
def convert (d : PrintfDialect) (c : Conversion) (st : Formatted) : Formatted :=
  let (width, precision, st) := st.measures d c.width c.precision
  if st.stopped then st else convertMeasured d c width precision st

/-- Write the pieces once. -/
def formatOnce (d : PrintfDialect) : List FormatPiece → Formatted → Formatted
  | [], st => st
  | piece :: rest, st =>
    if st.stopped then st
    else
      match piece with
      | .text s => formatOnce d rest (st.emit (.text s))
      | .conversion c => formatOnce d rest (convert d c st)
      | .stop => { st with stopped := true }
      | .badEscape f => { st.emit (.fault (.escape f)) with stopped := true }
      | .bad s cut width precision =>
        let (_, _, st) := st.measures d width precision
        let fault := (if cut then PrintfFault.cutOff else .directive) (.ofList s)
        if st.stopped then st else { st.emit (.fault fault) with stopped := true }

/-- Whether pieces take arguments. -/
def takesArguments (pieces : List FormatPiece) : Bool :=
  pieces.any fun piece => match piece with
    | .conversion _ => true
    | _ => false

/-- Write the pieces while arguments are left; `fuel` bounds the rounds. -/
def formatAll (d : PrintfDialect) : (fuel : Nat) → List FormatPiece → Formatted → Formatted
  | 0, _, st => st
  | fuel + 1, pieces, st =>
    let st := formatOnce d pieces st
    if st.stopped || st.args.isEmpty then st
    else if takesArguments pieces then formatAll d fuel pieces st
    else if d.inShell then st
    else st.emit (.fault (.excess (st.args.headD "")))

/-- Write what came out, in which a complaint comes after the text before it: the exit status. -/
def writeEmitted (inShell : Bool) : (held : String) → List Emitted → Task Nat
  | held, [] => do
    Task.print held
    return 0
  | held, .text s :: rest => writeEmitted inShell (held ++ .ofList s) rest
  | held, .fault f :: rest => do
    Task.print held
    Task.complain (if inShell then f.shellWording else f.programWording)
    return max (f.status inShell) (← writeEmitted inShell "" rest)

/-- Write arguments in a format: `printf format argument…`. The shell complains before it writes. -/
def printf (args : List String) : Task Nat := do
  let inShell := (← read).inShell
  let charset := (← read).charset
  let dialect := if inShell then shellPrintf else programPrintf charset
  match if args.head? = some "--" then args.tail else args with
  | [] =>
    if inShell then
      Task.complain "usage: printf format [arg ...]"
      return 2
    misuse "missing operand" 1
  | format :: rest =>
    if inShell && args.head? ≠ some "--" && format.length > 1 && format.toList.head? = some '-' then
      Task.complain ("Illegal option -" ++ ((format.toList[1]?).getD '-').toString)
      return 2
    let pieces := readFormat dialect (format.length + 1) format.toList
    let emitted := (formatAll dialect (rest.length + 1) pieces { args := rest }).output.reverse
    let isFault (e : Emitted) : Bool := match e with
      | .fault _ => true
      | .text _ => false
    writeEmitted inShell ""
      (if inShell then emitted.filter isFault ++ emitted.filter (!isFault ·) else emitted)

end CommandSpec.Utility
