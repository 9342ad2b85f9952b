/-!
# Classes of bytes

Patterns and sets of bytes name classes such as `alpha` or `space`. The classes are those of the
portable character set.
-/

namespace CommandSpec.Text

/-- The bytes of a named class. -/
def charClass? : String → Option (Char → Bool)
  | "alpha" => some Char.isAlpha
  | "digit" => some Char.isDigit
  | "alnum" => some Char.isAlphanum
  | "upper" => some Char.isUpper
  | "lower" => some Char.isLower
  | "space" => some fun c => c = ' ' || ('\t' ≤ c && c ≤ '\r')
  | "blank" => some fun c => c = ' ' || c = '\t'
  | "punct" => some fun c => '!' ≤ c && c ≤ '~' && !c.isAlphanum
  | "print" => some fun c => ' ' ≤ c && c ≤ '~'
  | "graph" => some fun c => '!' ≤ c && c ≤ '~'
  | "cntrl" => some fun c => c < ' ' || c = '\x7f'
  | "xdigit" => some fun c => c.isDigit || ('a' ≤ c && c ≤ 'f') || ('A' ≤ c && c ≤ 'F')
  | _ => none

end CommandSpec.Text
