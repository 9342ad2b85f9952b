import CommandSpec.Text.Lines
import CommandSpec.Text.Utf8

/-!
# Names in complaints

A complaint shows a name in one of three ways. `inQuotes` marks it as a quotation; when the
complaint is written, `showQuotations` puts it in quotes and writes bytes that cannot be shown as
escapes. What quotes there are depends on the character set. `shellQuoted` puts a name in quotes so
that a shell would read it back. `forShell` does that too but leaves a plain name as it is.
-/

namespace CommandSpec

/-- Which bytes make up a character. -/
inductive Charset where
  /-- Every byte is one. -/
  | bytes
  | utf8
  deriving DecidableEq, Repr, Inhabited

/-- Whether a character can be shown as it is. -/
def isShowable (c : Char) : Bool :=
  ' ' ≤ c && c ≤ '~'

/-- An escape for a character that cannot be shown: a letter or three octal digits. -/
def escapeFor (c : Char) : List Char :=
  let letter : Option Char := match c.toNat with
    | 7 => some 'a'
    | 8 => some 'b'
    | 9 => some 't'
    | 10 => some 'n'
    | 11 => some 'v'
    | 12 => some 'f'
    | 13 => some 'r'
    | _ => none
  match letter with
  | some l => ['\\', l]
  | none =>
    let digit (n : Nat) : Char := Char.ofNat ('0'.toNat + n % 8)
    ['\\', digit (c.toNat / 64), digit (c.toNat / 8), digit c.toNat]

/-! ## Quotations -/

/-- The mark before a quoted name. -/
def openingMark : Char := Char.ofNat 0x2018

/-- The mark after a quoted name. -/
def closingMark : Char := Char.ofNat 0x2019

/-- A name as a quotation. The marks are no bytes, so that no name holds them. -/
def inQuotes (name : String) : String :=
  openingMark.toString ++ name ++ closingMark.toString

/-- A mark as it is written. -/
def Charset.showMark : Charset → Char → List Char
  | bytes, _ => ['\x27']
  | utf8, mark => (Utf8.encode [mark]).map fun b => Char.ofNat b.toNat

/-- A part of a quoted name as it is written: a character, or bytes that are none. -/
def Charset.showQuoted (charset : Charset) (part : Utf8.Part) : List Char :=
  match charset, part with
  | .utf8, .character c =>
    if c = '\\' then ['\\', c]
    else if c.toNat < 0x80 then (if isShowable c then [c] else escapeFor c)
    else
      let written := (Utf8.encode [c]).map fun b => Char.ofNat b.toNat
      if c = closingMark then '\\' :: written
      else if c.toNat < 0xA0 then written.flatMap escapeFor
      else written
  | _, .character c =>
    if c = '\x27' || c = '\\' then ['\\', c] else if isShowable c then [c] else escapeFor c
  | _, .stray b => escapeFor b

/-- The parts of a text in a character set. -/
def Charset.parts : Charset → List Char → List Utf8.Part
  | bytes, cs => cs.map .character
  | utf8, cs => Utf8.parts cs

/-- The bytes of a part of a text. -/
def Charset.bytesOf : Charset → Utf8.Part → List Char
  | _, .stray b => [b]
  | bytes, .character c => [c]
  | utf8, .character c => (Utf8.encode [c]).map fun b => Char.ofNat b.toNat

/-- A complaint with its quotations as they are written. -/
def showQuotations (charset : Charset) (text : String) : String :=
  let go (cs : List Char) : List Char := (Text.cutAfter (· == closingMark) cs).flatMap fun piece =>
    let before := piece.takeWhile (· ≠ openingMark)
    let quoted := ((piece.drop (before.length + 1)).takeWhile (· ≠ closingMark))
    if before.length = piece.length then before
    else before ++ charset.showMark openingMark ++ (charset.parts quoted).flatMap charset.showQuoted
      ++ charset.showMark closingMark
  if text.toList.contains openingMark then .ofList (go text.toList) else text

/-! ## Names for a shell -/

/-- Whether a character means nothing special to a shell. -/
def isPlainInShell (c : Char) : Bool :=
  c.isAlphanum || "%+,-./]_@\x7b\x7d#~".toList.contains c

/-- Whether a shell would take a name for itself as it is. -/
def isPlainName (name : String) : Bool :=
  match name.toList with
  | [] => false
  | ['\x7b'] => false
  | ['\x7d'] => false
  | c :: cs => c ≠ '#' && c ≠ '~' && (c :: cs).all isPlainInShell

/-- A text inside single quotes as a shell reads it: a quote and what cannot be shown end the quotes
for a while. `escaping` tells whether the last character was an escape. -/
def shellBody : (escaping : Bool) → List Char → List Char
  | _, [] => []
  | escaping, c :: cs =>
    if isShowable c then
      let shown := if c = '\x27' then ['\x27', '\\', '\x27', '\x27'] else [c]
      (if escaping then ['\x27', '\x27'] else []) ++ shown ++ shellBody false cs
    else
      (if escaping then [] else ['\x27', '$', '\x27']) ++ escapeFor c ++ shellBody true cs

/-- A name in quotes as a shell would read it back. -/
def shellQuoted (name : String) : String :=
  let plainBesidesQuotes (c : Char) : Bool := c = ' ' || c = ':' || c = '\x27' || isPlainInShell c
  if name.toList.contains '\x27' && name.toList.all plainBesidesQuotes then "\"" ++ name ++ "\""
  else "'" ++ .ofList (shellBody false name.toList) ++ "'"

/-- A name as a shell would read it back, in quotes only where it needs them. -/
def forShell (name : String) : String :=
  if isPlainName name then name else shellQuoted name

end CommandSpec
