import CommandSpec.Utility.Count
import CommandSpec.Utility.Fraction
import CommandSpec.Utility.Names
import CommandSpec.Utility.Version

/-!
# `sort`

`sort` orders lines by keys: parts of a line, compared as bytes, as numbers, as months or in version
order. What a key is compared by is found once for every line. Lines that all keys hold for equal are
ordered as a whole, unless the order is to be stable.
-/

namespace CommandSpec.Utility

/-- Whether a character separates fields when no separator is given. -/
def isBlankByte (c : Char) : Bool :=
  c = ' ' || c = '\t' || c = '\n'

/-! ## Comparing -/

/-- The decimal number at the start of a key: its digits as an integer, and how many of them stand
after the point. -/
def leadingNumber (key : List Char) : Int × Nat :=
  let unsigned (cs : List Char) : Nat × Nat :=
    let whole := cs.takeWhile Char.isDigit
    let fraction := match cs.drop whole.length with
      | '.' :: ds => ds.takeWhile Char.isDigit
      | _ => []
    (Text.digitsValue (whole ++ fraction), fraction.length)
  match key.dropWhile isBlankByte with
  | '-' :: cs => let (n, places) := unsigned cs; (-(n : Int), places)
  | cs => let (n, places) := unsigned cs; (n, places)

/-- Compare decimal numbers: integers with so many digits after the point. -/
def compareDecimals (a b : Int × Nat) : Ordering :=
  compare (a.1 * 10 ^ b.2) (b.1 * 10 ^ a.2)

/-- The power of a thousand that the unit after a number stands for, below zero for a number with a
minus; a number without a digit above zero has none. -/
def unitOrder (key : List Char) : Int :=
  let cs := key.dropWhile isBlankByte
  let isNegative := cs.head? = some '-'
  let cs := if isNegative then cs.drop 1 else cs
  let whole := cs.takeWhile Char.isDigit
  let rest := cs.drop whole.length
  let (fraction, rest) := match rest with
    | '.' :: ds => (ds.takeWhile Char.isDigit, ds.dropWhile Char.isDigit)
    | _ => ([], rest)
  if (whole ++ fraction).all (· = '0') then 0
  else
    let units := "KMGTPEZY".toList
    let unit := match rest with
      | 'k' :: _ => 'K'
      | c :: _ => c
      | [] => ' '
    let order : Nat := ((units.idxOf? unit).map (· + 1)).getD 0
    if isNegative then -order else order

/-- A general number at the start of a key, stored in a binary format. -/
inductive GeneralNumber where
  | none
  | undefined (isNegative : Bool)
  | infinite (isNegative : Bool)
  | quotient (isNegative : Bool) (q : Quotient)

/-- The general number at the start of a key. What is too great to be stored is infinite, and what is
too small is zero. -/
def GeneralNumber.ofKey (key : List Char) : GeneralNumber :=
  let cs := key.dropWhile fun c => c = ' ' || ('\t' ≤ c && c ≤ '\r')
  let (isNegative, cs) : Bool × List Char := match cs with
    | '-' :: cs => (true, cs)
    | '+' :: cs => (false, cs)
    | cs => (false, cs)
  match readNumeral? cs with
  | .none => .none
  | some (.undefined, _) => .undefined isNegative
  | some (.infinite, _) => .infinite isNegative
  | some (.quotient q, _) =>
    match (Magnitude.nearest .extended q).1 with
    | .finite significand exponent => .quotient isNegative (Magnitude.quotient significand exponent)
    | _ => .infinite isNegative

/-- Compare general numbers: first what is none, then what is undefined, then by size. -/
def GeneralNumber.compare (a b : GeneralNumber) : Ordering :=
  let rank : GeneralNumber → Int
    | none => 0
    | undefined true => 1
    | undefined false => 2
    | infinite true => 3
    | quotient _ _ => 4
    | infinite false => 5
  match a, b with
  | quotient m p, quotient n q =>
    let signed (isNegative : Bool) (k : Nat) : Int := if isNegative then -k else k
    Ord.compare (signed m (p.numerator * q.denominator)) (signed n (q.numerator * p.denominator))
  | a, b => Ord.compare (rank a) (rank b)

/-- The number of the month whose name a key begins with; 0 if there is none. -/
def monthOf (key : List Char) : Nat :=
  let name := String.ofList (((key.dropWhile isBlankByte).take 3).map Char.toUpper)
  ((["JAN", "FEB", "MAR", "APR", "MAY", "JUN", "JUL", "AUG", "SEP", "OCT", "NOV", "DEC"].idxOf?
    name).map (· + 1)).getD 0

/-- How two keys are compared: the letters of the options that tell. -/
structure Comparison where
  letters : List Char := []
  deriving DecidableEq, Repr, Inhabited

namespace Comparison

/-- Whether the option with a letter is given. -/
def has (c : Comparison) (letter : Char) : Bool :=
  c.letters.contains letter

/-- The letters of options that do not go together, if there are any. -/
def conflict? (c : Comparison) : Option String :=
  let kinds := "ghMn".toList.filter c.has
  let others := "diRV".toList.any c.has
  if kinds.length + (if others then 1 else 0) > 1 then
    let shown := "dfghiMnRV".toList.filter fun l => c.has l && !(l = 'i' && c.has 'd')
    some (.ofList shown)
  else none

/-- What counts of a key: with `d` only blanks, letters and digits, with `i` only what can be shown,
and with `f` small letters as capital ones. -/
def view (c : Comparison) (key : List Char) : List Char :=
  let counts (x : Char) : Bool :=
    if c.has 'd' then isBlankByte x || x.isAlphanum else !c.has 'i' || isShowable x
  (key.filter counts).map fun x => if c.has 'f' then x.toUpper else x

end Comparison

/-- What a key is compared by. -/
inductive KeyValue where
  | bytes (s : String)
  | decimal (n : Int × Nat)
  | general (g : GeneralNumber)
  | scaled (order : Int) (n : Int × Nat)
  | month (n : Nat)
  | version (cs : List Char)
  | shuffled (hash : Nat) (s : String)

namespace KeyValue

/-- Compare texts byte by byte. -/
def compareTexts (a b : String) : Ordering :=
  if a < b then .lt else if a = b then .eq else .gt

/-- A number that tells nothing about the order of the texts it is made from. -/
def hash (cs : List Char) : Nat :=
  cs.foldl (fun h c => (h * 1099511628211 + c.toNat + 1) % 18446744073709551557) 14695981039346656037

/-- What a part of a line is compared by. -/
def ofPart (c : Comparison) (part : List Char) : KeyValue :=
  let part := c.view part
  if c.has 'n' then decimal (leadingNumber part)
  else if c.has 'g' then general (GeneralNumber.ofKey part)
  else if c.has 'h' then scaled (unitOrder part) (leadingNumber part)
  else if c.has 'M' then month (monthOf part)
  else if c.has 'R' then shuffled (hash part) (.ofList part)
  else if c.has 'V' then version part
  else bytes (.ofList part)

/-- Compare what keys are compared by. -/
def compare : KeyValue → KeyValue → Ordering
  | bytes a, bytes b => compareTexts a b
  | decimal a, decimal b => compareDecimals a b
  | general a, general b => a.compare b
  | scaled i a, scaled j b => (Ord.compare i j).then (compareDecimals a b)
  | month a, month b => Ord.compare a b
  | version a, version b => compareVersions a b
  | shuffled i a, shuffled j b => (Ord.compare i j).then (compareTexts a b)
  | _, _ => .eq

end KeyValue

/-! ## Keys -/

/-- A place in a line: how many fields and then how many characters stand before it. -/
structure KeyPlace where
  fields : Nat
  chars : Nat
  skipsBlanks : Bool := false
  deriving Repr, Inhabited

/-- The part of a line by which it is ordered. -/
structure SortKey where
  first : KeyPlace := ⟨0, 0, false⟩
  /-- Where the key ends, if not at the end of the line; without characters it ends with the field after
  those that are passed. -/
  last : Option KeyPlace := none
  comparison : Comparison := {}
  deriving Repr, Inhabited

/-- The text after a number of fields; with `keepsSeparator` the last separator is not passed. -/
def dropFields (separator : Option Char) (keepsSeparator : Bool) : Nat → List Char → List Char
  | 0, cs => cs
  | n + 1, cs =>
    match separator with
    | some t =>
      let rest := cs.dropWhile (· ≠ t)
      dropFields separator keepsSeparator n
        (if keepsSeparator && n = 0 then rest else rest.drop 1)
    | none =>
      dropFields separator keepsSeparator n
        ((cs.dropWhile isBlankByte).dropWhile (!isBlankByte ·))

namespace SortKey

/-- The part of a line that a key takes. -/
def extract (separator : Option Char) (k : SortKey) (line : List Char) : List Char :=
  let skip (place : KeyPlace) (cs : List Char) : List Char :=
    if place.skipsBlanks then cs.dropWhile isBlankByte else cs
  let start := (skip k.first (dropFields separator false k.first.fields line)).drop k.first.chars
  match k.last with
  | none => start
  | some place =>
    let after :=
      if place.chars = 0 then dropFields separator true (place.fields + 1) line
      else (skip place (dropFields separator false place.fields line)).drop place.chars
    start.take (start.length - after.length)

/-- Whether nothing is said about how the key is compared. -/
def isPlain (k : SortKey) : Bool :=
  k.comparison.letters.isEmpty && !k.first.skipsBlanks && !k.last.any KeyPlace.skipsBlanks

/-- The key with the letters of options for all keys, if it has none of its own. -/
def inherit (letters : List Char) (k : SortKey) : SortKey :=
  if !k.isPlain then k
  else
    let skipsBlanks := letters.contains 'b'
    { first := { k.first with skipsBlanks }, last := k.last.map fun p => { p with skipsBlanks }
      comparison := ⟨letters.filter (· ≠ 'b')⟩ }

end SortKey

/-- The letters of options that tell how keys are compared. -/
def orderLetters : List Char :=
  "bdfghiMnRrV".toList

/-- Read a number in a key, the complaint telling what it is. -/
def readKeyNumber (what : String) (cs : List Char) : Except String (Nat × List Char) :=
  match cs.takeWhile Char.isDigit with
  | [] => .error (what ++ ": invalid count at start of " ++ inQuotes (.ofList cs))
  | digits => .ok (Text.digitsValue digits, cs.drop digits.length)

/-- Read a key such as `2,2n`. -/
def readKey (spec : String) : Except String SortKey := do
  let bad (what : String) : Except String Unit :=
    .error (what ++ ": invalid field specification " ++ inQuotes spec)
  let (field, rest) ← readKeyNumber "invalid number at field start" spec.toList
  if field = 0 then bad "field number is zero"
  let (char, rest) ← match rest with
    | '.' :: rest => readKeyNumber "invalid number after '.'" rest
    | rest => pure (1, rest)
  if char = 0 then bad "character offset is zero"
  let letters := rest.takeWhile orderLetters.contains
  let first : KeyPlace := ⟨field - 1, char - 1, letters.contains 'b'⟩
  match rest.drop letters.length with
  | ',' :: rest =>
    let (field, rest) ← readKeyNumber "invalid number after ','" rest
    if field = 0 then bad "field number is zero"
    let (char, rest) ← match rest with
      | '.' :: rest => readKeyNumber "invalid number after '.'" rest
      | rest => pure (0, rest)
    let more := rest.takeWhile orderLetters.contains
    if more.length ≠ rest.length then bad "stray character in field spec"
    return { first, last := some ⟨field - 1, char, more.contains 'b'⟩
             comparison := ⟨(letters ++ more).filter (· ≠ 'b')⟩ }
  | rest =>
    if !rest.isEmpty then bad "stray character in field spec"
    return { first, comparison := ⟨letters.filter (· ≠ 'b')⟩ }

/-! ## Ordering lines -/

/-- What `sort` is asked to do. -/
structure SortOrder where
  keys : List SortKey := []
  separator : Option Char := none
  /-- The letters of options for keys that have none of their own. -/
  letters : List Char := []
  stable : Bool := false
  distinct : Bool := false
  /-- The letter of the option that only checks the order, if one is given. -/
  checks : Option Char := none
  output : Option String := none
  deriving Inhabited

/-- A line with what its keys are compared by. -/
structure SortLine where
  text : String
  values : List KeyValue
  deriving Inhabited

namespace SortOrder

/-- Compare two lines by the keys alone. -/
def byKeys (o : SortOrder) (a b : SortLine) : Ordering :=
  (o.keys.zip (a.values.zip b.values)).foldl (fun found (k, x, y) => found.then
    (if k.comparison.has 'r' then (x.compare y).swap else x.compare y)) .eq

/-- Compare two lines. -/
def compare (o : SortOrder) (a b : SortLine) : Ordering :=
  let whole := KeyValue.compareTexts a.text b.text
  let last := if o.letters.contains 'r' then whole.swap else whole
  if o.keys.isEmpty then last
  else if o.stable || o.distinct then o.byKeys a b else (o.byKeys a b).then last

/-- Whether two lines count as the same. -/
def alike (o : SortOrder) (a b : SortLine) : Bool :=
  o.compare a b = .eq

/-- A line with what its keys are compared by. -/
def readLine (o : SortOrder) (text : String) : SortLine :=
  let cs := if o.keys.isEmpty then [] else text.toList
  { text, values := o.keys.map fun k => .ofPart k.comparison (k.extract o.separator cs) }

/-- The letter that stands for a way to sort, by its name. -/
def sortWords : List (List String × Char) :=
  [(["general-numeric"], 'g'), (["human-numeric"], 'h'), (["month"], 'M'), (["numeric"], 'n'),
    (["random"], 'R'), (["version"], 'V')]

/-- What one more option asks for, or what is wrong with it. -/
def addOption (o : SortOrder) (option : String × String) : Except String SortOrder := do
  let check (letter : Char) : Except String SortOrder := do
    if o.checks.any (· ≠ letter) then throw "options '-cC' are incompatible"
    return { o with checks := some letter }
  match option with
  | ("t", value) =>
    let c ← match value.toList with
      | [] => throw "empty tab"
      | [c] => pure c
      | ['\\', '0'] => pure (Char.ofNat 0)
      | _ => throw ("multi-character tab " ++ inQuotes value)
    if o.separator.any (· ≠ c) then throw "incompatible tabs"
    return { o with separator := some c }
  | ("k", value) => return { o with keys := o.keys ++ [← readKey value] }
  | ("o", value) =>
    if o.output.any (· ≠ value) then throw "multiple output files specified"
    return { o with output := some value }
  | ("s", _) => return { o with stable := true }
  | ("u", _) => return { o with distinct := true }
  | ("c", _) => check 'c'
  | ("C", _) => check 'C'
  | ("check", "") => check 'c'
  | ("check", word) => check (← readChoice "--check" word [(["quiet", "silent"], 'C'), (["diagnose-first"], 'c')])
  | ("sort", word) => return { o with letters := o.letters ++ [← readChoice "--sort" word sortWords] }
  | (letter, _) =>
    match letter.toList with
    | [c] => return if orderLetters.contains c then { o with letters := o.letters ++ [c] } else o
    | _ => return o

/-- The order that options ask for, or what is wrong with them. Without keys, letters other than
`r` make one key of the whole line. -/
def ofArguments (a : Arguments) : Except String SortOrder := do
  let o ← a.options.foldlM addOption {}
  let whole := if o.letters.any (· ≠ 'r') then [({} : SortKey)] else []
  let keys := (if o.keys.isEmpty then whole else o.keys).map (SortKey.inherit o.letters)
  for k in keys do
    if let some letters := k.comparison.conflict? then
      throw ("options '-" ++ letters ++ "' are incompatible")
  return { o with keys }

end SortOrder

/-- The lines without those that are like the last line kept. -/
def dropRepeats (alike : SortLine → SortLine → Bool) : List SortLine → List SortLine
  | [] => []
  | line :: rest => line :: go line rest
where
  /-- The lines that follow a kept one. -/
  go (kept : SortLine) : List SortLine → List SortLine
    | [] => []
    | line :: rest => if alike kept line then go kept rest else line :: go line rest

/-- The number and text of the first line that may not follow the line before it. -/
def disorder? (inOrder : SortLine → SortLine → Bool) :
    (number : Nat) → List SortLine → Option (Nat × String)
  | number, a :: b :: rest =>
    if inOrder a b then disorder? inOrder (number + 1) (b :: rest) else some (number + 1, b.text)
  | _, _ => none

/-- The lines of each input, or what is wrong with the first input that cannot be read; `verb` words
that it cannot be opened. -/
def readLines (verb : String) (zero : Bool) : List String → Task (Except String (List (List String)))
  | [] => return .ok []
  | operand :: rest => do
    match ← readInput operand with
    | .ok text => return (← readLines verb zero rest).map (recordsOf zero text :: ·)
    | .error e =>
      let failure := if e = .isDirectory then "read failed" else verb
      return .error (failure ++ ": " ++ forShell operand ++ ": " ++ e.wording)

/-- Write a text to a file, or to standard output without one. -/
def printTo (path? : Option String) (text : String) : Task (Except OsError Unit) := do
  match path? with
  | none =>
    Task.print text
    return .ok ()
  | some path =>
    match ← Task.openPath path .write with
    | .error e => return .error e
    | .ok fd =>
      let outcome ← Task.write fd text
      Task.close fd
      return outcome

/-- The names of inputs that a file lists, each closed by a NUL, or what is wrong with the list. -/
def readNames (cannotOpen list : String) : Task (Except String (List String)) := do
  match ← readInput list with
  | .error e => return .error (cannotOpen ++ e.wording)
  | .ok text =>
    let names := recordsOf true text
    match names.findIdx? (· = "") with
    | some k =>
      return .error (forShell list ++ ":" ++ toString (k + 1) ++ ": invalid zero-length file name")
    | none => return .ok names

/-- A key such as `+1.2n` with its end such as `-2`, both counted from 0, as a key of the other kind. -/
def convertKey? (first : String) (last? : Option String) : Option (List String) := do
  let place (cs : List Char) : Option (Nat × Nat × List Char) := do
    let field := cs.takeWhile Char.isDigit
    guard (!field.isEmpty)
    let (char, rest) := match cs.drop field.length with
      | '.' :: rest => (rest.takeWhile Char.isDigit, rest.dropWhile Char.isDigit)
      | rest => ([], rest)
    guard (rest.all orderLetters.contains)
    return (Text.digitsValue field, Text.digitsValue char, rest)
  let (field, char, letters) ← place (first.toList.drop 1)
  let start := toString (field + 1) ++ "." ++ toString (char + 1) ++ .ofList letters
  match last?.bind fun last => place (last.toList.drop 1) with
  | none => return "-k" :: start :: last?.toList
  | some (0, 0, _) => return ["-k", start]
  | some (field, char, letters) =>
    let stop := if char = 0 then toString field else toString (field + 1) ++ "." ++ toString char
    return ["-k", start ++ "," ++ stop ++ .ofList letters]

/-- The arguments with keys such as `+1` written as options. -/
def expandKeys : List String → List String
  | [] => []
  | "--" :: rest => "--" :: rest
  | arg :: rest =>
    let isEnd (s : String) : Bool := s.toList.head? = some '-' && s.toList[1]?.any Char.isDigit
    if arg.toList.head? = some '+' then
      match rest with
      | last :: more =>
        if isEnd last then
          ((convertKey? arg (some last)).getD [arg, last]) ++ expandKeys more
        else ((convertKey? arg none).getD [arg]) ++ expandKeys (last :: more)
      | [] => (convertKey? arg none).getD [arg]
    else arg :: expandKeys rest

/-- The options of `sort`. -/
def sortOptions : OptionTable :=
  { flags := "bcCdfghimMnRrsuVz", valued := "ktoST", openWords := ["check"], words := ["debug"]
    valuedWords := ["sort", "batch-size", "compress-program", "files0-from", "parallel", "random-source"]
    names := [("ignore-leading-blanks", "b"), ("dictionary-order", "d"), ("ignore-case", "f"),
      ("general-numeric-sort", "g"), ("human-numeric-sort", "h"), ("ignore-nonprinting", "i"),
      ("merge", "m"), ("month-sort", "M"), ("numeric-sort", "n"), ("random-sort", "R"),
      ("reverse", "r"), ("stable", "s"), ("unique", "u"), ("version-sort", "V"),
      ("zero-terminated", "z"), ("key", "k"), ("field-separator", "t"), ("output", "o"),
      ("buffer-size", "S"), ("temporary-directory", "T")] }

/-- What is wrong with an option that has nothing to do with the order. -/
def sortLimitFault? (a : Arguments) : Option String := do
  let isNumber (s : String) : Bool := (Text.readNumber? s).isSome
  let bad (option : String) (shown : String) (isGood : String → Bool) : Option String := do
    let value ← a.value? option
    if isGood value then none else some ("invalid " ++ shown ++ " argument " ++ inQuotes value)
  let size (s : String) : Bool :=
    s.toList.head?.any Char.isDigit && (s.toList.dropWhile Char.isDigit).length ≤ 1
  (bad "S" "-S" size).or ((bad "parallel" "--parallel" isNumber).or
    ((if a.value? "parallel" = some "0" then some "number in parallel must be nonzero" else none).or
      (bad "batch-size" "--batch-size" fun s => isNumber s && s ≠ "0" && s ≠ "1")))

/-- Write the lines of all inputs in order:
`sort [-bcCdfghimMnRrsuVz] [-k key] [-t separator] [-o file] [file…]`. -/
def sort (args : List String) : Task Nat :=
  let fail (complaint : String) : Task Nat := do
    Task.complain complaint
    return 2
  withOptions sortOptions (expandKeys args) (fun a => do
    if let some complaint := sortLimitFault? a then return (← fail complaint)
    match SortOrder.ofArguments a with
    | .error e =>
      if e.toList.contains '\n' then misuse e 2 else fail e
    | .ok order =>
      let names ← match a.value? "files0-from" with
        | none => pure (.ok (orStdin a.operands))
        | some list =>
          if let extra :: _ := a.operands then
            return (← misuse ("extra operand " ++ inQuotes extra
              ++ "\nfile operands cannot be combined with --files0-from") 2)
          readNames ("open failed: " ++ forShell list ++ ": ") list
      match names with
      | .error complaint => fail complaint
      | .ok [] => fail ("no input from " ++ inQuotes ((a.value? "files0-from").getD ""))
      | .ok operands => do
        if let some letter := order.checks then
          if let some extra := operands[1]? then
            return (← misuse ("extra operand " ++ inQuotes extra ++ " not allowed with -"
              ++ letter.toString) 2)
          if order.output.isSome then
            return (← fail ("options '-" ++ letter.toString ++ "o' are incompatible"))
        let verb := if order.checks.isSome then "open failed" else "cannot read"
        match ← readLines verb (a.has "z") operands with
        | .error e => fail e
        | .ok inputs =>
          let inputs := inputs.map fun lines => lines.map order.readLine
          if let some letter := order.checks then
            let inOrder (x y : SortLine) : Bool :=
              if order.distinct then order.compare x y = .lt else order.compare x y ≠ .gt
            match disorder? inOrder 1 inputs.flatten with
            | none => return 0
            | some (n, line) =>
              if letter = 'c' then
                Task.complain (operands.headD "-" ++ ":" ++ toString n ++ ": disorder: " ++ line)
              return 1
          let before (x y : SortLine) : Bool := order.compare x y ≠ .gt
          let sorted := if a.has "m" then inputs.foldl (fun xs ys => xs.merge ys before) []
            else inputs.flatten.mergeSort before
          let kept := if order.distinct then dropRepeats order.alike sorted else sorted
          match ← printTo order.output (closed (a.has "z") (kept.map SortLine.text)) with
          | .ok () => return 0
          | .error e =>
            fail ("open failed: " ++ forShell (order.output.getD "") ++ ": " ++ e.wording)) 2

end CommandSpec.Utility
