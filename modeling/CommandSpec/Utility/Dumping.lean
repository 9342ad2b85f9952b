import CommandSpec.Utility.Amount
import CommandSpec.Utility.Fraction
import CommandSpec.Utility.Inputs
import CommandSpec.Utility.Outcome

/-!
# `od`

`od` shows the bytes of its inputs, taken together, as numbers or characters. A block of bytes fills a
line for each shape that is asked for, after its address; blocks equal to the one before are passed
over.
-/

namespace CommandSpec.Utility

/-! ## Shapes -/

/-- What bytes are shown as. -/
inductive DumpKind where
  | signed
  | unsigned
  | octal
  | hexadecimal
  | fraction
  | character
  /-- Characters, of which those that cannot be seen have names. -/
  | named
  deriving DecidableEq, Repr, Inhabited

/-- What some bytes at a time are shown as. -/
structure DumpShape where
  kind : DumpKind
  size : Nat := 1
  /-- Whether the bytes of the block are also shown as characters at the end of the line. -/
  trails : Bool := false
  deriving DecidableEq, Repr, Inhabited

namespace DumpShape

/-- The width of a field. -/
def width (s : DumpShape) : Nat :=
  let limit := 256 ^ s.size
  match s.kind with
  | .signed => (Nat.toDigits 10 (limit / 2)).length + 1
  | .unsigned => (Nat.toDigits 10 (limit - 1)).length
  | .octal => (Nat.toDigits 8 (limit - 1)).length
  | .hexadecimal => 2 * s.size
  | .fraction => if s.size = 4 then 15 else if s.size = 8 then 24 else 29
  | .character => 3
  | .named => 3

/-- The number that bytes make, the first one counting least. -/
def number (bytes : List Nat) : Nat :=
  bytes.foldr (fun b n => 256 * n + b) 0

/-- A binary number that is stored in some bits: its sign and its magnitude. The leading bit of its
significand is stored only on request. -/
def stored (f : BinaryFormat) (storesLead : Bool) (n : Nat) : Bool × Magnitude :=
  let held := if storesLead then f.precision else f.precision - 1
  let range := (2 * f.limit).toNat
  let isNegative := n / (2 ^ held * range) % 2 = 1
  let exponent := n / 2 ^ held % range
  let rest := n % 2 ^ held
  let fraction := rest % 2 ^ (f.precision - 1)
  (isNegative,
    if exponent = range - 1 then if fraction = 0 then .infinite else .undefined
    else if exponent = 0 then .finite rest f.least
    else if storesLead && rest < 2 ^ (f.precision - 1) then .undefined
    else .finite (if storesLead then rest else rest + 2 ^ held) (f.least + exponent - 1))

/-- A number with as few digits as are needed to tell it from all others; `fuel` more may be tried. -/
def shortest (f : BinaryFormat) (q : Quotient) (m : Magnitude) : (fuel count : Nat) → List Char
  | 0, count => showGeneral false count q
  | fuel + 1, count =>
    let shown := showGeneral false count q
    match readNumeral? shown with
    | some (.quotient again, _) => if (Magnitude.nearest f again).1 = m then shown else shortest f q m fuel (count + 1)
    | _ => shown

/-- A stored binary number as it is shown. -/
def fractionText (f : BinaryFormat) (storesLead : Bool) (n : Nat) : List Char :=
  let (isNegative, m) := stored f storesLead n
  let sign := if isNegative then ['-'] else []
  match m with
  | .infinite => sign ++ "inf".toList
  | .undefined => sign ++ "nan".toList
  | .finite 0 _ => sign ++ ['0']
  | .finite significand exponent =>
    let least := if f.precision = 24 then 6 else if f.precision = 53 then 15 else 18
    let q := Magnitude.quotient significand exponent
    let normal := (Magnitude.nearest f q).1
    let isTiny := significand < 2 ^ (f.precision - 1)
    sign ++ shortest f q normal 20 (if isTiny then 1 else least)

/-- The names of the characters that cannot be seen, in order; the last one is the space. -/
def names : List String :=
  ["nul", "soh", "stx", "etx", "eot", "enq", "ack", "bel", "bs", "ht", "nl", "vt", "ff", "cr", "so", "si", "dle",
    "dc1", "dc2", "dc3", "dc4", "nak", "syn", "etb", "can", "em", "sub", "esc", "fs", "gs", "rs", "us", "sp"]

/-- A byte as a character. -/
def characterText (b : Nat) : List Char :=
  match b with
  | 0 => ['\\', '0']
  | 7 => ['\\', 'a']
  | 8 => ['\\', 'b']
  | 9 => ['\\', 't']
  | 10 => ['\\', 'n']
  | 11 => ['\\', 'v']
  | 12 => ['\\', 'f']
  | 13 => ['\\', 'r']
  | b => if 32 ≤ b && b < 127 then [Char.ofNat b] else Text.paddedDigits 8 3 b

/-- The text of a field. -/
def text (s : DumpShape) (bytes : List Nat) : List Char :=
  let n := number bytes
  match s.kind with
  | .signed =>
    let limit := 256 ^ s.size
    if n < limit / 2 then Nat.toDigits 10 n else '-' :: Nat.toDigits 10 (limit - n)
  | .unsigned => Nat.toDigits 10 n
  | .octal => Text.paddedDigits 8 s.width n
  | .hexadecimal => Text.paddedDigits 16 s.width n
  | .fraction =>
    if s.size = 4 then fractionText ⟨24, -149, 128⟩ false n
    else if s.size = 8 then fractionText .double false n
    else fractionText .extended true (n % 2 ^ 80)
  | .character => characterText n
  | .named =>
    let b := n % 128
    if b = 127 then "del".toList else (names[b]?.map String.toList).getD [Char.ofNat b]

end DumpShape

/-! ## Reading shapes -/

/-- The sizes that letters stand for. -/
def sizeLetter? (isFraction : Bool) (c : Char) : Option Nat :=
  if isFraction then
    match c with
    | 'F' => some 4
    | 'D' => some 8
    | 'L' => some 16
    | _ => none
  else
    match c with
    | 'C' => some 1
    | 'S' => some 2
    | 'I' => some 4
    | 'L' => some 8
    | _ => none

/-- The kind of number that a letter asks for. -/
def numberKind? : Char → Option DumpKind
  | 'd' => some .signed
  | 'u' => some .unsigned
  | 'o' => some .octal
  | 'x' => some .hexadecimal
  | 'f' => some .fraction
  | _ => none

/-- The shapes that a text asks for, or what is wrong with it; at most `fuel`. -/
def readShapes (whole : String) : (fuel : Nat) → List Char → Except String (List DumpShape)
  | 0, _ => .ok []
  | _, [] => .ok []
  | fuel + 1, c :: cs => do
    let finish (kind : DumpKind) (size : Nat) (rest : List Char) : Except String (List DumpShape) := do
      let trails := rest.head? = some 'z'
      return { kind, size, trails } :: (← readShapes whole fuel (if trails then rest.drop 1 else rest))
    match c, numberKind? c with
    | 'a', _ => finish .named 1 cs
    | 'c', _ => finish .character 1 cs
    | _, none => throw ("invalid character " ++ inQuotes c.toString ++ " in type string " ++ inQuotes whole)
    | _, some kind =>
      let isFraction := kind = .fraction
      match cs.head?.bind (sizeLetter? isFraction) with
      | some size => finish kind size (cs.drop 1)
      | none =>
        let digits := cs.takeWhile Char.isDigit
        let size := if digits.isEmpty then if isFraction then 8 else 4 else Text.numberIn 10 digits
        if 2 ^ 64 ≤ size then throw ("invalid type string " ++ inQuotes whole)
        let sizes := if isFraction then [4, 8, 16] else [1, 2, 4, 8]
        if !sizes.contains size then
          throw ("invalid type string " ++ inQuotes whole ++ ";\nthis system doesn't provide a " ++ toString size
            ++ (if isFraction then "-byte floating point type" else "-byte integral type"))
        finish kind size (cs.drop digits.length)

/-- The shapes that options of one letter ask for. -/
def letterShapes : List (String × List DumpShape) :=
  let one (kind : DumpKind) (size : Nat) : List DumpShape := [{ kind, size }]
  [("a", one .named 1), ("b", one .octal 1), ("c", one .character 1), ("d", one .unsigned 2), ("f", one .fraction 4),
    ("i", one .signed 4), ("l", one .signed 8), ("o", one .octal 2), ("s", one .signed 2), ("x", one .hexadecimal 2),
    ("B", one .octal 2), ("D", one .unsigned 4), ("e", one .fraction 8), ("F", one .fraction 8),
    ("H", one .hexadecimal 4), ("h", one .hexadecimal 2), ("I", one .signed 8), ("L", one .signed 8),
    ("O", one .octal 4), ("X", one .hexadecimal 4)]

/-! ## Lines -/

/-- How an input is dumped. -/
structure Dump where
  shapes : List DumpShape := [{ kind := .octal, size := 2 }]
  /-- The base of addresses, if they are shown. -/
  base : Option Nat := some 8
  /-- How many bytes there are in a block. -/
  blockSize : Nat := 16
  /-- Whether the first byte of a number counts most. -/
  bigEndian : Bool := false
  /-- Whether blocks equal to the one before are shown too. -/
  showsAll : Bool := false
  deriving Inhabited

namespace Dump

/-- The width of an address. -/
def addressWidth (d : Dump) : Nat :=
  match d.base with
  | some 16 => 6
  | some _ => 7
  | none => 0

/-- An address. -/
def address (d : Dump) (n : Nat) : List Char :=
  match d.base with
  | some base => Text.paddedDigits base d.addressWidth n
  | none => []

/-- Bytes in groups of a size. -/
def groups (size : Nat) : (fuel : Nat) → List Nat → List (List Nat)
  | 0, _ => []
  | _, [] => []
  | fuel + 1, bytes => bytes.take size :: groups size fuel (bytes.drop size)

/-- The width of a line without its address. -/
def lineWidth (d : Dump) : Nat :=
  d.shapes.foldl (fun w s => max w ((s.width + 1) * (d.blockSize / s.size))) 0

/-- The line of a block in a shape, without its address. -/
def line (d : Dump) (s : DumpShape) (bytes : List Nat) : List Char :=
  let fields := d.blockSize / s.size
  let gaps := d.lineWidth - fields * s.width
  let shown := (groups s.size fields bytes).map fun g =>
    let missing := s.size - g.length
    let g := g ++ List.replicate missing 0
    s.text (if d.bigEndian then g.reverse else g)
  let cells := shown.zipIdx.map fun (text, i) =>
    let gap := gaps * (fields - i) / fields - gaps * (fields - i - 1) / fields
    List.replicate (gap + s.width - text.length) ' ' ++ text
  let empty := fields - shown.length
  let trailer := if !s.trails then [] else
    List.replicate (gaps * empty / fields + empty * s.width) ' ' ++ "  >".toList
      ++ bytes.map (fun b => if 32 ≤ b && b < 127 then Char.ofNat b else '.') ++ ['<']
  cells.flatten ++ trailer

/-- The lines of a block. -/
def lines (d : Dump) (start : Nat) (bytes : List Nat) : List Char :=
  d.shapes.zipIdx.flatMap fun (s, i) =>
    (if i = 0 then d.address start else List.replicate d.addressWidth ' ') ++ d.line s bytes ++ ['\n']

/-- How far a dump has come. -/
structure Progress where
  /-- Whether there was an input at all. -/
  started : Bool := false
  /-- The address of what is held. -/
  place : Nat
  /-- Bytes that fill no block yet. -/
  held : List Nat := []
  previous : Option (List Nat) := none
  /-- Whether it was shown that blocks are passed over. -/
  passing : Bool := false
  deriving Inhabited

/-- The lines of all whole blocks that are held, and the progress after them; at most `fuel` blocks. -/
def takeBlocks (d : Dump) : (fuel : Nat) → Progress → List (List Char) × Progress
  | 0, p => ([], p)
  | fuel + 1, p =>
    let block := p.held.take d.blockSize
    if block.length < d.blockSize then ([], p)
    else
      let isAgain := !d.showsAll && p.previous = some block
      let shown := if !isAgain then d.lines p.place block else if p.passing then [] else ['*', '\n']
      let (rest, last) := d.takeBlocks fuel
        { p with place := p.place + d.blockSize, held := p.held.drop d.blockSize, previous := some block, passing := isAgain }
      (shown :: rest, last)

/-- The lines of what is left, and the last address. -/
def finish (d : Dump) (p : Progress) : List Char :=
  let rest := if p.held.isEmpty then [] else d.lines p.place p.held
  let last := d.address (p.place + p.held.length)
  rest ++ if d.base.isSome then last ++ ['\n'] else []

end Dump

/-! ## Inputs -/

/-- What is left to be skipped and to be shown of the inputs. -/
structure DumpWindow where
  skip : Nat := 0
  most : Option Nat := none
  deriving DecidableEq, Repr, Inhabited

/-- Go through what a descriptor yields within a window, and act on it; at most `fuel` reads. -/
def eachInWindow {σ : Type} (fd : Nat) (act : σ → String → Task σ) :
    (fuel : Nat) → DumpWindow × σ → Task ((DumpWindow × σ) × Option OsError)
  | 0, s => return (s, none)
  | fuel + 1, (w, s) => do
    let wanted := (w.skip + w.most.getD 4096)
    if wanted = 0 then return ((w, s), none)
    match ← Task.readChunk fd (min 4096 wanted) with
    | .error e => return ((w, s), some e)
    | .ok "" => return ((w, s), none)
    | .ok chunk =>
      let skipped := min w.skip chunk.length
      let shown := String.ofList (chunk.toList.drop skipped)
      let w := { skip := w.skip - skipped, most := w.most.map (· - shown.length) }
      let s ← if shown = "" then pure s else act s shown
      if ← Task.isRefused then return ((w, s), none)
      eachInWindow fd act fuel (w, s)

/-- Strings of at least so many characters that end in a NUL, each with its place. -/
def stringsIn (least : Nat) : (place : Nat) → (soFar : List Char) → List Char → List (Nat × List Char)
  | _, _, [] => []
  | place, soFar, c :: cs =>
    if ' ' ≤ c && c ≤ '~' then stringsIn least (place + 1) (c :: soFar) cs
    else if c = '\x00' && least ≤ soFar.length then
      (place - soFar.length, soFar.reverse) :: stringsIn least (place + 1) [] cs
    else stringsIn least (place + 1) [] cs

/-- What is wrong with a number that an option was given. -/
inductive DumpNumberFault where
  | invalid
  | invalidSuffix
  | tooLarge
  deriving DecidableEq, Repr

/-- A number in base 8, 10 or 16, as its start tells, with a unit after it. -/
def readDumpNumber (s : String) : Except DumpNumberFault Nat :=
  let (base, cs) : Nat × List Char := match s.toList with
    | '0' :: 'x' :: rest => (16, rest)
    | '0' :: 'X' :: rest => (16, rest)
    | '0' :: rest => (8, '0' :: rest)
    | cs => (10, if cs.head? = some '+' then cs.drop 1 else cs)
  let digits := cs.takeWhile (Text.isDigitIn base)
  if digits.isEmpty then .error .invalid
  else
    match unitFactor? "bEGKkMmPTYZ" (cs.drop digits.length) with
    | none => .error .invalidSuffix
    | some factor =>
      let n := Text.numberIn base digits * factor
      if n < amountLimit then .ok n else .error .tooLarge

/-- The wording of what is wrong with the number of an option. -/
def dumpNumberComplaint (option value : String) : DumpNumberFault → String
  | .invalid => "invalid " ++ option ++ " argument " ++ inQuotes value
  | .invalidSuffix => "invalid suffix in " ++ option ++ " argument " ++ inQuotes value
  | .tooLarge => option ++ " argument " ++ inQuotes value ++ " too large"

/-- An offset as an operand: in base 8, or in base 10 with a point at its end. -/
def readOffset? (s : String) : Option Nat :=
  let cs := if s.toList.head? = some '+' then s.toList.drop 1 else s.toList
  let (cs, factor) := if cs.getLast? = some 'b' || cs.getLast? = some 'B' then (cs.dropLast, 512) else (cs, 1)
  let found := if cs.getLast? = some '.' then Text.readNumberIn? 10 cs.dropLast
    else if ['0', 'x'].isPrefixOf cs then Text.readNumberIn? 16 (cs.drop 2)
    else Text.readNumberIn? 8 cs
  found.map (· * factor)

/-- The operands without an offset, and the offset. -/
def splitOffset (traditional : Bool) (operands : List String) : List String × Nat :=
  let starts (s : String) (digits : Bool) : Bool :=
    traditional || s.toList.head? = some '+' || (digits && s.toList.head?.any Char.isDigit)
  match operands with
  | [o] => if starts o false then ((readOffset? o).map fun n => ([], n)).getD ([o], 0) else ([o], 0)
  | [file, o] =>
    if starts o true then ((readOffset? o).map fun n => ([file], n)).getD ([file, o], 0) else ([file, o], 0)
  | operands => (operands, 0)

/-- The options of `od`. -/
def odOptions : OptionTable :=
  { flags := "aBbcDdeFfHhIiLlOosvXx", valued := "AjNSt", attached := "w"
    names := [("skip-bytes", "j"), ("address-radix", "A"), ("read-bytes", "N"), ("format", "t"),
      ("output-duplicates", "v"), ("width", "w")]
    words := ["traditional"], openWords := ["strings"], valuedWords := ["endian"] }

/-- The number of an option, or the complaint. -/
def dumpNumber (option : String) (value? : Option String) (otherwise : Nat) : Except String Nat :=
  match value? with
  | none => .ok otherwise
  | some value =>
    match readDumpNumber value with
    | .ok n => .ok n
    | .error fault => .error (dumpNumberComplaint option value fault)

/-- The base of addresses that a letter stands for. -/
def addressBase (letter : String) : Except String (Option Nat) :=
  match letter.toList.head? with
  | some 'd' => .ok (some 10)
  | some 'o' => .ok (some 8)
  | some 'x' => .ok (some 16)
  | some 'n' => .ok none
  | _ =>
    .error ("invalid output address radix '" ++ letter ++ "'; it must be one character from [doxn]")

/-- What `od` is asked for. -/
structure DumpRequest where
  dump : Dump := {}
  window : DumpWindow := {}
  /-- How long strings are at least, if these are asked for. -/
  strings : Option Nat := none
  /-- The width that was asked for but cannot be had. -/
  badWidth : Option Nat := none
  operands : List String := []
  deriving Inhabited

/-- What arguments ask for, or what is wrong with them. -/
def dumpRequest (bigEndian : Bool) (a : Arguments) : Except String DumpRequest := do
  let base ← addressBase ((a.value? "A").getD "o")
  let skip ← dumpNumber "-j" (a.value? "j") 0
  let most ← match a.value? "N" with
    | none => pure none
    | some v => some <$> dumpNumber "-N" (some v) 0
  let strings ← match a.last? ["S", "strings"] with
    | none => pure none
    | some (_, "") => pure (some 3)
    | some (_, v) => some <$> dumpNumber "-S" (some v) 3
  let shapes ← a.options.mapM fun (option, value) =>
    if option = "t" then readShapes value (value.length + 1) value.toList
    else .ok ((letterShapes.lookup option).getD [])
  let shapes := if shapes.flatten.isEmpty then [{ kind := .octal, size := 2 }] else shapes.flatten
  let unit := shapes.foldl (fun n (s : DumpShape) => Nat.lcm n s.size) 1
  let (blockSize, badWidth) ← match a.value? "w" with
    | none => pure (max unit (16 / unit * unit), none)
    | some v =>
      let n ← dumpNumber "-w" (if v = "" then none else some v) 32
      pure (if n ≠ 0 && n % unit = 0 then (n, none) else (unit, some n))
  let modern := a.hasAny ["A", "j", "N", "S", "strings", "t", "v", "w", "endian"]
  let (operands, offset) := if modern && !a.has "traditional" then (a.operands, 0)
    else splitOffset (a.has "traditional") a.operands
  return {
    dump := { shapes, base, blockSize, bigEndian, showsAll := a.has "v" }
    window := { skip := skip + offset, most }, strings, badWidth, operands }

/-- Show bytes: `od [options] [file…]`. -/
def od (args : List String) : Task Nat :=
  withOptions odOptions args fun a => do
    let order : Except String Bool := match a.value? "endian" with
      | none => .ok false
      | some v => readChoice "--endian" v [(["little"], false), (["big"], true)]
    let bigEndian ← match order with
      | .ok b => pure b
      | .error complaint => return (← misuse complaint 1)
    match dumpRequest bigEndian a with
    | .error complaint => failWith 1 complaint
    | .ok r =>
      if let some n := r.badWidth then
        Task.complain ("warning: invalid width " ++ toString n ++ "; using " ++ toString r.dump.blockSize ++ " instead")
      let complaint : InputComplaint := fun operand e => forShell operand ++ ": " ++ e.wording
      let start := r.window.skip
      match r.strings with
      | some least =>
        let keep (soFar chunk : String) : Task String := return soFar ++ chunk
        let ((_, text), ok) ← eachInput complaint (fun fd s => eachInWindow fd keep Task.patience s)
          (orStdin r.operands) (r.window, "")
        for (place, found) in stringsIn least start [] text.toList do
          let address := r.dump.address place
          Task.print (.ofList (address ++ (if address.isEmpty then [] else [' ']) ++ found ++ ['\n']))
        return if ok then 0 else 1
      | none =>
        let show' (p : Dump.Progress) (chunk : String) : Task Dump.Progress := do
          let p := { p with held := p.held ++ chunk.toList.map Char.toNat }
          let (lines, p) := r.dump.takeBlocks (p.held.length + 1) p
          Task.print (.ofList lines.flatten)
          return p
        let act (fd : Nat) (s : DumpWindow × Dump.Progress) : Task ((DumpWindow × Dump.Progress) × Option OsError) :=
          eachInWindow fd show' Task.patience (s.1, { s.2 with started := true })
        let ((window, p), ok) ← eachInput complaint act (orStdin r.operands) (r.window, { place := start })
        if !p.started then return 1
        if window.skip > 0 then return (← failWith 1 "cannot skip past end of combined input")
        Task.print (.ofList (r.dump.finish p))
        return if ok then 0 else 1

end CommandSpec.Utility
