import CommandSpec.Regex.Basic
import CommandSpec.Text.CharClass

/-!
# Sets of characters in brackets

A set lists characters, ranges such as `a-z`, and classes such as `[:alpha:]`. A bracket that closes
stands for itself when it comes first, and a dash when it comes first or last.
-/

namespace CommandSpec

/-- What can be wrong with a regular expression. -/
inductive RegexFault where
  | noExpression
  | badCollation
  | badClass
  | trailingBackslash
  | badReference
  | openBracket
  | openGroup
  | openInterval
  | badInterval
  | badRange
  | nothingToRepeat
  | tooBig
  | strayClose
  | confusingBrackets
  deriving DecidableEq, Repr

/-- The wording of what is wrong. -/
def RegexFault.message : RegexFault → String
  | noExpression => "Invalid regular expression"
  | badCollation => "Invalid collation character"
  | badClass => "Invalid character class name"
  | trailingBackslash => "Trailing backslash"
  | badReference => "Invalid back reference"
  | openBracket => "Unmatched [, [^, [:, [., or [="
  | openGroup => "Unmatched ( or \\("
  | openInterval => "Unmatched \\\x7b"
  | badInterval => "Invalid content of \\\x7b\\\x7d"
  | badRange => "Invalid range end"
  | nothingToRepeat => "Invalid preceding regular expression"
  | tooBig => "Regular expression too big"
  | strayClose => "Unmatched ) or \\)"
  | confusingBrackets => "character class syntax is [[:space:]], not [:space:]"

namespace Regex

/-- A member of a set in brackets. -/
inductive SetItem where
  | range (low high : Char)
  | named (accepts : Char → Bool)

namespace SetItem

/-- Whether a character is in the member. -/
def accepts (c : Char) : SetItem → Bool
  | range low high => low ≤ c && c ≤ high
  | named f => f c

end SetItem

/-- A part of a set before ranges are made of it. -/
inductive SetToken where
  | char (c : Char)
  /-- A dash as it is, which may make a range. -/
  | dash
  /-- A character that is named, as in `[.a.]`. -/
  | symbol (c : Char)
  | equivalents (c : Char)
  | named (accepts : Char → Bool)
  | close

/-- A name in a set up to its mark and a closing bracket, and the text after them. -/
def nameUpTo? (mark : Char) : List Char → Option (List Char × List Char)
  | a :: b :: rest =>
    if a = mark && b = ']' then some ([], rest)
    else (nameUpTo? mark (b :: rest)).map fun (name, rest) => (a :: name, rest)
  | _ => none

/-- The next part of a set, and the text after it. -/
def readSetToken (escapes : Bool) : List Char → Except RegexFault (SetToken × List Char)
  | [] => .error .openBracket
  | '[' :: mark :: rest =>
    if mark ≠ ':' && mark ≠ '.' && mark ≠ '=' then .ok (.char '[', mark :: rest)
    else
      match nameUpTo? mark rest with
      | none => .error .openBracket
      | some (name, rest) =>
        if mark = ':' then
          match Text.charClass? (.ofList name) with
          | some f => .ok (.named f, rest)
          | none => .error .badClass
        else
          match name with
          | [c] => .ok (if mark = '=' then .equivalents c else .symbol c, rest)
          | _ => .error .badCollation
  | ']' :: rest => .ok (.close, rest)
  | '-' :: rest => .ok (.dash, rest)
  | '\\' :: c :: rest => .ok (if escapes then (.char c, rest) else (.char '\\', c :: rest))
  | c :: rest => .ok (.char c, rest)

/-- The members of a set up to its closing bracket, and the text after it; `isFirst` tells whether none
was read before. At most `fuel` members. -/
def readSetItems (escapes : Bool) :
    (fuel : Nat) → (isFirst : Bool) → List Char → Except RegexFault (List SetItem × List Char)
  | 0, _, _ => .error .openBracket
  | fuel + 1, isFirst, cs => do
    let single (c : Char) (rest : List Char) : Except RegexFault (List SetItem × List Char) := do
      let (items, rest) ← readSetItems escapes fuel false rest
      return (.range c c :: items, rest)
    let maybeRange (c : Char) (rest : List Char) : Except RegexFault (List SetItem × List Char) :=
      match rest with
      | '-' :: ']' :: _ => single c rest
      | ['-'] => .error .openBracket
      | '-' :: more => do
        let (last, rest) ← readSetToken escapes more
        let high ← match last with
          | .char h => pure h
          | .symbol h => pure h
          | .dash => pure '-'
          | _ => throw .badRange
        if high < c then throw .badRange
        let (items, rest) ← readSetItems escapes fuel false rest
        return (.range c high :: items, rest)
      | _ => single c rest
    match ← readSetToken escapes cs with
    | (.close, rest) => if isFirst then maybeRange ']' rest else return ([], rest)
    | (.dash, rest) =>
      if isFirst || rest.head? = some ']' then maybeRange '-' rest else throw .badRange
    | (.char c, rest) => maybeRange c rest
    | (.symbol c, rest) => maybeRange c rest
    | (.equivalents c, rest) => single c rest
    | (.named f, rest) =>
      match rest with
      | '-' :: c :: _ => if c ≠ ']' then throw .badRange
      | _ => pure ()
      let (items, rest) ← readSetItems escapes fuel false rest
      return (.named f :: items, rest)

/-- Whether a character or the same letter in the other case is accepted. -/
def inEitherCase (accepts : Char → Bool) : Char → Bool := fun c =>
  accepts c || accepts c.toLower || accepts c.toUpper

/-- Whether the text of a set looks as if the brackets of a class had been forgotten. -/
def isConfusing (cs : List Char) : Bool :=
  match cs with
  | ':' :: rest =>
    let name := rest.takeWhile Char.isAlphanum
    !name.isEmpty && [':', ']'].isPrefixOf (rest.drop name.length)
  | _ => false

/-- The set after an opening bracket: what it accepts, and the text after it. -/
def readSet (escapes ignoresCase : Bool) (cs : List Char) :
    Except RegexFault ((Char → Bool) × List Char) := do
  let isNegated := cs.head? = some '^'
  let cs := if isNegated then cs.drop 1 else cs
  if cs.isEmpty then throw .noExpression
  let (items, rest) ← readSetItems escapes (cs.length + 1) true cs
  if isConfusing cs then throw .confusingBrackets
  let listed (c : Char) : Bool := items.any (·.accepts c)
  let listed := if ignoresCase then inEitherCase listed else listed
  return (tabulate fun c => listed c != isNegated, rest)

end Regex

end CommandSpec
