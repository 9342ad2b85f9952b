import CommandSpec.Text.Integer
import CommandSpec.Text.Quoting

/-!
# Backslash escapes

`printf` and `echo` replace escapes such as `\n` or `\101` by the bytes they stand for. In a format
an octal escape has up to three digits; in an argument it may have a zero in front of them, and `\c`
ends all output. Some programs know more escapes than a shell does.
-/

namespace CommandSpec.Utility

/-- The escapes that are known besides the common ones. -/
structure EscapeRules where
  /-- Whether `\x41` is known. -/
  hexadecimal : Bool := false
  /-- Whether a backslash before a double quote stands for the quote. -/
  quote : Bool := false
  /-- The character set in which `\u00e9` is written, if that is known. -/
  unicode : Option Charset := none
  deriving DecidableEq, Repr, Inhabited

/-- What can be wrong with an escape. -/
inductive EscapeFault where
  | noDigits
  | badName (letter : Char) (code : Nat)
  deriving DecidableEq, Repr

/-- The complaint about an escape. -/
def EscapeFault.message : EscapeFault → String
  | noDigits => "missing hexadecimal number in escape"
  | badName letter code =>
    "invalid universal character name \\" ++ letter.toString
      ++ .ofList (Text.paddedDigits 16 (if letter = 'u' then 4 else 8) code)

/-- The digits of a base at the start of a text, at most `n` of them. -/
def leadingDigits (base n : Nat) (cs : List Char) : List Char :=
  (cs.take n).takeWhile (Text.isDigitIn base)

/-- The byte that digits denote. -/
def byteOf (base : Nat) (digits : List Char) : Char :=
  Char.ofNat (Text.numberIn base digits % 256)

/-- What an escape of one letter stands for. -/
def letterEscape? : Char → Option Char
  | 'a' => some '\x07'
  | 'b' => some '\x08'
  | 'e' => some '\x1b'
  | 'f' => some '\x0c'
  | 'n' => some '\n'
  | 'r' => some '\r'
  | 't' => some '\t'
  | 'v' => some '\x0b'
  | '\\' => some '\\'
  | _ => none

namespace EscapeRules

/-- A character by its number: as it is written in a character set, or else by an escape. -/
def named (charset : Charset) (code : Nat) : List Char :=
  if code < 0x80 then [Char.ofNat code]
  else if charset = .utf8 && code < 0x110000 then
    (Utf8.encode [Char.ofNat code]).map fun b => Char.ofNat b.toNat
  else if code < 0x10000 then ['\\', 'u'] ++ (Text.paddedDigits 16 4 code).map Char.toUpper
  else ['\\', 'U'] ++ (Text.paddedDigits 16 8 code).map Char.toUpper

/-- What `u` or `U` and digits after a backslash stand for, and how much of the text the escape takes.
The plain characters have no such names, apart from three of them. -/
def namedEscape (charset : Charset) (letter : Char) (digits : List Char) :
    Except EscapeFault (List Char × Nat) := do
  let count := if letter = 'u' then 4 else 8
  let digits := leadingDigits 16 count digits
  if digits.length < count then throw .noDigits
  let code := Text.numberIn 16 digits
  let isPlain := code ≤ 0x9F && code ∉ [0x24, 0x40, 0x60]
  if isPlain || (0xD800 ≤ code && code ≤ 0xDFFF) then throw (.badName letter code)
  return (named charset code, count + 1)

/-- What the text after a backslash stands for, and how much of it the escape takes. An unknown
escape stands for itself. -/
def escape (rules : EscapeRules) (cs : List Char) : Except EscapeFault (List Char × Nat) :=
  match cs with
  | [] => .ok (['\\'], 0)
  | c :: rest =>
    let hexadecimal := if rules.hexadecimal && c = 'x' then leadingDigits 16 2 rest else []
    if hexadecimal ≠ [] then .ok ([byteOf 16 hexadecimal], hexadecimal.length + 1)
    else if rules.quote && c = '"' then .ok ([c], 1)
    else
      match rules.unicode, c, letterEscape? c, leadingDigits 8 3 cs with
      | some _, 'x', _, _ => .error .noDigits
      | some charset, 'u', _, _ => namedEscape charset 'u' rest
      | some charset, 'U', _, _ => namedEscape charset 'U' rest
      | _, _, some e, _ => .ok ([e], 1)
      | _, _, none, [] => .ok (['\\'], 0)
      | _, _, none, digits => .ok ([byteOf 8 digits], digits.length)

/-- How a text with escapes ends. -/
inductive TextEnd where
  | plain
  /-- By `\c`, after which nothing is written any more. -/
  | stop
  | fault (f : EscapeFault)
  deriving DecidableEq, Repr

/-- A text with its escapes replaced, and how it ends; the first `skip` characters were taken by an
escape. -/
def unescapeFrom (rules : EscapeRules) : (skip : Nat) → List Char → List Char × TextEnd
  | _, [] => ([], .plain)
  | skip + 1, _ :: cs => unescapeFrom rules skip cs
  | 0, '\\' :: cs =>
    match cs with
    | 'c' :: _ => ([], .stop)
    | '0' :: digits =>
      let taken := leadingDigits 8 3 digits
      let (rest, ending) := unescapeFrom rules (taken.length + 1) cs
      (byteOf 8 taken :: rest, ending)
    | _ =>
      match rules.escape cs with
      | .error f => ([], .fault f)
      | .ok (e, n) =>
        let (rest, ending) := unescapeFrom rules n cs
        (e ++ rest, ending)
  | 0, c :: cs =>
    let (rest, ending) := unescapeFrom rules 0 cs
    (c :: rest, ending)

/-- A text with its escapes replaced, and how it ends. -/
def unescape (rules : EscapeRules) (s : String) : String × TextEnd :=
  let (cs, ending) := rules.unescapeFrom 0 s.toList
  (.ofList cs, ending)

end EscapeRules

end CommandSpec.Utility
