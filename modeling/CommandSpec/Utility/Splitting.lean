import CommandSpec.Text.Integer
import CommandSpec.Utility.Amount
import CommandSpec.Utility.Children
import CommandSpec.Utility.Environment
import CommandSpec.Utility.Inputs
import CommandSpec.Utility.Outcome

/-!
# `split`

An input is cut into pieces, and each piece is written to a file of its own. The names of the files differ
in a suffix, which counts the files in letters or digits.
-/

namespace CommandSpec.Utility

/-! ## Pieces -/

/-- What counts where an input is cut into a number of pieces. -/
inductive PieceMeasure where
  /-- The pieces have as many bytes. -/
  | bytes
  /-- The pieces have as many bytes, but lines are not cut. -/
  | lines
  /-- Lines are dealt out in turns. -/
  | turns
  deriving DecidableEq, Repr, Inhabited

/-- How an input is cut. -/
inductive SplitWay where
  | lines (n : Nat)
  | bytes (n : Nat)
  /-- As many lines as have at most so many bytes. -/
  | fitting (n : Nat)
  /-- A number of pieces, of which perhaps only one is wanted. -/
  | pieces (m : PieceMeasure) (count : Nat) (only : Option Nat)
  deriving DecidableEq, Repr, Inhabited

namespace SplitWay

/-- A list cut after every `n` elements; at most `fuel` times. -/
def cutEvery {α : Type} (n : Nat) : (fuel : Nat) → List α → List (List α)
  | 0, xs => if xs.isEmpty then [] else [xs]
  | fuel + 1, xs =>
    if xs.isEmpty then [] else xs.take n :: cutEvery n fuel (xs.drop n)

/-- Lines put together as long as they have at most `n` bytes; longer lines are cut. At most `fuel` steps. -/
def fit (n : Nat) : (fuel : Nat) → (piece : List Char) → List (List Char) → List (List Char)
  | 0, piece, _ => [piece]
  | _ + 1, piece, [] => if piece.isEmpty then [] else [piece]
  | fuel + 1, piece, line :: rest =>
    if piece.length + line.length ≤ n then fit n fuel (piece ++ line) rest
    else if !piece.isEmpty then piece :: fit n fuel [] (line :: rest)
    else line.take n :: fit n fuel [] (line.drop n :: rest)

/-- Lines in groups, each line in the group with its number; at most `count` groups. -/
def inGroups (count : Nat) (numbered : List (Nat × List Char)) : List (List Char) :=
  let groups := numbered.foldl (fun (groups : Array (List (List Char))) (k, line) => groups.modify k (line :: ·))
    (Array.replicate count [])
  groups.toList.map fun lines => lines.reverse.flatten

/-- Lines with the places where they start. -/
def withPlaces (lines : List (List Char)) : List (Nat × List Char) :=
  (lines.foldl (fun (place, found) line => (place + line.length, (place, line) :: found)) (0, [])).2.reverse

/-- The pieces of a text. -/
def cut (w : SplitWay) (ending : Char) (text : String) : List (List Char) :=
  let cs := text.toList
  let lines := closedRecords ending text
  match w with
  | .lines n => (cutEvery n cs.length lines).map List.flatten
  | .bytes n => cutEvery n cs.length cs
  | .fitting n => fit n (2 * cs.length + 2) [] lines
  | .pieces m count _ =>
    let size := max cs.length count / count
    match m with
    | .bytes =>
      (List.range count).map fun k =>
        let rest := cs.drop (k * size)
        if k + 1 = count then rest else rest.take size
    | .lines => inGroups count ((withPlaces lines).map fun (place, line) => (min (place / size) (count - 1), line))
    | .turns => inGroups count (lines.zipIdx.map fun (line, k) => (k % count, line))

end SplitWay

/-! ## Names -/

/-- How the suffixes of names are made. -/
structure SuffixStyle where
  digits : List Char := (List.range 26).map fun k => Char.ofNat ('a'.toNat + k)
  /-- How many digits a suffix has, if that is told. -/
  length : Option Nat := none
  /-- The first suffix, if it is told. -/
  first : Option String := none
  deriving Inhabited

/-- A suffix: digits that stay as they are, and places of digits that count. -/
structure Suffix where
  lead : List Nat := []
  places : List Nat
  deriving DecidableEq, Repr, Inhabited

namespace Suffix

/-- Count places on, the last one first; nothing when all of them start again. -/
def increment? (base : Nat) : List Nat → Option (List Nat)
  | [] => none
  | k :: rest =>
    match increment? base rest with
    | some rest => some (k :: rest)
    | none => if k + 1 < base then some ((k + 1) :: rest.map fun _ => 0) else none

/-- The next suffix. One that may grow does so before its first place takes the last digit. -/
def next? (base : Nat) (grows : Bool) (s : Suffix) : Option Suffix := do
  let places ← increment? base s.places
  if grows && places.head? = some (base - 1) then
    return { lead := s.lead ++ [base - 1], places := List.replicate (places.length + 1) 0 }
  return { s with places }

/-- A suffix in digits. -/
def write (digits : List Char) (s : Suffix) : String :=
  .ofList ((s.lead ++ s.places).map fun k => (digits[k]?).getD 'a')

end Suffix

/-- How an input is split. -/
structure Splitting where
  way : SplitWay := .lines 1000
  isChosen : Bool := false
  suffix : SuffixStyle := {}
  ending : Option Char := none
  extra : String := ""
  /-- The command that takes the pieces, if it is not files that do. -/
  filter : Option String := none
  omitsEmpty : Bool := false
  verbose : Bool := false
  deriving Inhabited

namespace Splitting

/-- What is wrong with an option, and whether a hint follows. -/
abbrev Fault := String × Bool

/-- Read a number of pieces, perhaps after the number of the only one that is wanted. -/
def readPieces (m : PieceMeasure) (text : String) : Except String SplitWay := do
  let read (what : String) (most : Nat) (s : String) : Except String Nat := readAmountIn what "" 1 most s
  match text.splitOn "/" with
  | only :: rest@(_ :: _) =>
    let count ← read "invalid number of chunks" (2 ^ 64 - 1) ("/".intercalate rest)
    return .pieces m count (some (← read "invalid chunk number" count only))
  | _ => return .pieces m (← read "invalid number of chunks" (2 ^ 64 - 1) text) none

/-- The splitting in a way that an option asks for. -/
def withWay (s : Splitting) (way : Except String SplitWay) : Except Fault Splitting :=
  if s.isChosen then .error ("cannot split in more than one way", true)
  else (way.mapError (·, false)).map fun way => { s with way, isChosen := true }

/-- The digits of a base. -/
def digitsOf (base : Nat) : List Char :=
  (List.range base).map Nat.digitChar

/-- The splitting with suffixes that count in a base. -/
def withBase (s : Splitting) (base : Nat) (first : String) : Except Fault Splitting := do
  let digits := digitsOf base
  if first = "" then return { s with suffix := { s.suffix with digits } }
  if !first.toList.all digits.contains then
    throw (inQuotes first ++ ": invalid start value for " ++ (if base = 10 then "numerical" else "hexadecimal")
      ++ " suffix", true)
  return { s with suffix := { s.suffix with digits, first := some first } }

/-- The splitting as one option asks for it. -/
def withOption (s : Splitting) (option value : String) : Except Fault Splitting := do
  let amount (what units : String) : Except String Nat := readAmountIn what units 1 (2 ^ 63 - 1) value
  match option with
  | "l" => s.withWay ((amount "invalid number of lines" "").map .lines)
  | "b" => s.withWay ((amount "invalid number of bytes" "bkKmMGTPEZYRQ").map .bytes)
  | "C" => s.withWay ((amount "invalid number of bytes" "bkKmMGTPEZYRQ").map .fitting)
  | "n" =>
    s.withWay <| match value.toList with
      | 'l' :: '/' :: rest => readPieces .lines (.ofList rest)
      | 'r' :: '/' :: rest => readPieces .turns (.ofList rest)
      | _ => readPieces .bytes value
  | "a" =>
    let n ← (readAmountIn "invalid suffix length" "" 0 (2 ^ 62) value).mapError (·, false)
    return { s with suffix := { s.suffix with length := if n = 0 then none else some n } }
  | "additional-suffix" =>
    if value.toList.contains '/' then
      throw ("invalid suffix " ++ inQuotes value ++ ", contains directory separator", true)
    return { s with extra := value }
  | "d" => s.withBase 10 value
  | "numeric-suffixes" => s.withBase 10 value
  | "x" => s.withBase 16 value
  | "hex-suffixes" => s.withBase 16 value
  | "e" => return { s with omitsEmpty := true }
  | "filter" => return { s with filter := some value }
  | "verbose" => return { s with verbose := true }
  | "t" =>
    let ending ← match value.toList with
      | [] => throw ("empty record separator", false)
      | [c] => pure c
      | ['\\', '0'] => pure '\x00'
      | _ => throw ("multi-character separator " ++ inQuotes value, false)
    if s.ending.any (· ≠ ending) then throw ("multiple separator characters specified", false)
    return { s with ending := some ending }
  | _ => return s

/-- How many digits the suffixes of some files need. -/
def neededLength (base : Nat) : (fuel : Nat) → Nat → Nat
  | 0, _ => 1
  | fuel + 1, last => if last < base then 1 else 1 + neededLength base fuel (last / base)

/-- The first suffix, and whether suffixes may grow. -/
def firstSuffix (s : Splitting) : Except Fault (Suffix × Bool) := do
  let style := s.suffix
  let base := style.digits.length
  let needed ← match s.way with
    | .pieces _ count none =>
      let first := ((style.first.bind Text.readNumber?).filter (· < count)).getD 0
      pure (some (neededLength base 64 (count - 1 + first)))
    | _ => pure none
  let length ← match style.length, needed with
    | some n, some needed =>
      if n < needed then throw ("the suffix length needs to be at least " ++ toString needed, false)
      pure n
    | some n, none => pure n
    | none, needed => pure (max 2 (needed.getD 2))
  let first := (style.first.map fun f => f.toList.map fun c => (style.digits.idxOf? c).getD 0).getD []
  if length < first.length then
    throw ((if base = 10 then "numerical" else "hexadecimal")
      ++ " suffix start value is too large for the suffix length", true)
  return ({ places := List.replicate (length - first.length) 0 ++ first },
    style.length.isNone && needed.isNone && style.first.isNone)

/-- Hand a piece to the command that takes pieces: its status. -/
def filterPiece (command path piece : String) : Task Nat := do
  let withName (c : Context) : Context := { c with environment := setVariable c.environment "FILE" path }
  let (fd, pid) ← Task.within withName (openCommand command false)
  let _ ← Task.write fd piece
  Task.close fd
  match ← Task.waitFor pid Task.patience with
  | .exited 0 => return 0
  | .exited n => failWith n ("with FILE=" ++ path ++ ", exit " ++ toString n ++ " from command: " ++ command)
  | .killed _ => return 0

/-- Write a piece to a file: 0 if that worked. -/
def writePiece (s : Splitting) (input? : Option Inode) (path piece : String) : Task Nat := do
  match s.filter with
  | some command =>
    if s.verbose then Task.printLine ("executing with FILE=" ++ shellQuoted path)
    filterPiece command path piece
  | none =>
    if s.verbose then Task.printLine ("creating file " ++ shellQuoted path)
    let (files, cwd) ← Task.place
    if input?.isSome && (files.resolve cwd path).toOption = input? then
      return (← failWith 1 (shellQuoted path ++ " would overwrite input; aborting"))
    match ← Task.openPath path .write with
    | .error e => failWith 1 (forShell path ++ ": " ++ e.wording)
    | .ok fd =>
      let written ← Task.write fd piece
      Task.close fd
      match written with
      | .ok () => return 0
      | .error e => failWith 1 (forShell path ++ ": " ++ e.wording)

/-- Write pieces to files, as long as there are suffixes. -/
def writePieces (s : Splitting) (input? : Option Inode) (lead : String) (grows : Bool) :
    Option Suffix → List (List Char) → Task Nat
  | _, [] => return 0
  | none, _ :: _ => failWith 1 "output file suffixes exhausted"
  | some suffix, piece :: rest => do
    if s.omitsEmpty && piece.isEmpty then writePieces s input? lead grows (some suffix) rest
    else
      let path := lead ++ suffix.write s.suffix.digits ++ s.extra
      let status ← s.writePiece input? path (.ofList piece)
      if status ≠ 0 then return status
      writePieces s input? lead grows (suffix.next? s.suffix.digits.length grows) rest

/-- Split an input. -/
def run (s : Splitting) (operand lead : String) : Task Nat := do
  let (files, cwd) ← Task.place
  let input? := if operand = "-" then none else (files.resolve cwd operand).toOption
  if operand ≠ "-" then
    if let .error e := files.resolve cwd operand then
      return (← failWith 1 ("cannot open " ++ shellQuoted operand ++ " for reading: " ++ e.wording))
  match ← readInput operand with
  | .error e => failWith 1 (forShell operand ++ ": " ++ e.wording)
  | .ok text =>
    let pieces := s.way.cut (s.ending.getD '\n') text
    match s.way, s.firstSuffix with
    | .pieces _ _ (some only), _ =>
      Task.print (.ofList ((pieces[only - 1]?).getD []))
      return 0
    | _, .ok (suffix, grows) => s.writePieces input? lead grows (some suffix) pieces
    | _, .error (complaint, _) => failWith 1 complaint

end Splitting

/-- Cut an input into files: `split [options] [file [prefix]]`. -/
def split (args : List String) : Task Nat :=
  let table : OptionTable :=
    { flags := "dexu0123456789", valued := "abClnt"
      names := [("suffix-length", "a"), ("bytes", "b"), ("line-bytes", "C"), ("elide-empty-files", "e"),
        ("lines", "l"), ("number", "n"), ("separator", "t"), ("unbuffered", "u")]
      words := ["verbose"], valuedWords := ["additional-suffix", "filter"]
      openWords := ["numeric-suffixes", "hex-suffixes"] }
  withOptions table args fun a => do
    let isDigit (o : String × String) : Bool := o.1.toList.all Char.isDigit
    let digits := String.join ((a.options.filter isDigit).map Prod.fst)
    let options := a.options.filter (!isDigit ·) ++ if digits = "" then [] else [("l", digits)]
    let complainOf (fault : Splitting.Fault) : Task Nat :=
      if fault.2 then misuse fault.1 1 else failWith 1 fault.1
    match options.foldlM (fun (s : Splitting) (option, value) => s.withOption option value) {} with
    | .error fault => complainOf fault
    | .ok s =>
      if let _ :: _ :: extra :: _ := a.operands then
        return (← misuse ("extra operand " ++ inQuotes extra) 1)
      if let .error fault := s.firstSuffix then return (← complainOf fault)
      s.run (a.operands.headD "-") ((a.operands[1]?).getD "x")

end CommandSpec.Utility
