import CommandSpec.Text.Integer

/-!
# Version order

Names that hold numbers are ordered so that `f9` comes before `f10`. A name is compared in turns: a
stretch without digits by letters, and a stretch of digits as a number. Endings such as `.tar.gz` only
decide when the rest is the same. The empty name comes first, then `.`, `..` and the other names that
begin with a point.
-/

namespace CommandSpec.Utility

/-- Where a character comes among those that are no digits; `~` comes before the end of a name. -/
def versionRank : Option Char → Int
  | none => -1
  | some c => if c.isDigit then 0 else if c.isAlpha then c.toNat else if c = '~' then -2 else c.toNat + 256

/-- Compare numbers written in digits at the head of two texts, leading zeros left out. -/
def compareDigits (a b : List Char) : Ordering :=
  let significant (cs : List Char) : List Char := (cs.takeWhile Char.isDigit).dropWhile (· = '0')
  let a := significant a
  let b := significant b
  (compare a.length b.length).then (compare a b)

/-- Compare two texts in turns: stretches without digits and stretches of digits; at most `fuel`
steps. -/
def compareStretches : (fuel : Nat) → List Char → List Char → Ordering
  | 0, _, _ => .eq
  | fuel + 1, a, b =>
    let isText (cs : List Char) : Bool := cs.head?.any (!·.isDigit)
    if a.isEmpty && b.isEmpty then .eq
    else if isText a || isText b then
      (compare (versionRank a.head?) (versionRank b.head?)).then (compareStretches fuel (a.drop 1) (b.drop 1))
    else
      (compareDigits a b).then
        (compareStretches fuel (a.dropWhile Char.isDigit) (b.dropWhile Char.isDigit))

/-- Whether a text is made of endings: a point, a letter or `~`, and more letters, digits or `~`.
`begun` tells how much of an ending stands before. -/
def isEndings : (begun : Option Bool) → List Char → Bool
  | begun, [] => begun ≠ some false
  | none, c :: cs => c = '.' && isEndings (some false) cs
  | some false, c :: cs => (c.isAlpha || c = '~') && isEndings (some true) cs
  | some true, c :: cs =>
    if c = '.' then isEndings (some false) cs else (c.isAlphanum || c = '~') && isEndings (some true) cs

/-- A name without its endings; its first character always stays. -/
def dropEndings : List Char → List Char
  | [] => []
  | c :: cs => c :: keep cs
where
  /-- The characters before the endings. -/
  keep : List Char → List Char
    | [] => []
    | c :: cs => if isEndings none (c :: cs) then [] else c :: keep cs

/-- Compare two names in version order. -/
def compareVersions (a b : List Char) : Ordering :=
  let rank : List Char → Nat
    | [] => 0
    | ['.'] => 1
    | ['.', '.'] => 2
    | '.' :: _ => 3
    | _ => 4
  let stretches (a b : List Char) : Ordering := compareStretches (a.length + b.length + 1) a b
  ((compare (rank a) (rank b)).then (stretches (dropEndings a) (dropEndings b))).then (stretches a b)

end CommandSpec.Utility
