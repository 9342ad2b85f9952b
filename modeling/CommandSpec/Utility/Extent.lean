import CommandSpec.Utility.Amount
import CommandSpec.Utility.Inputs

/-!
# `head` and `tail`

Both show a part of every input, counted in lines or in bytes: `head` the first ones or all but the
last, `tail` the last ones or all from a position on. What `head` has read too much of a file is given
back, so that who reads on finds the rest.
-/

namespace CommandSpec.Utility

/-- Which part of a text `head` or `tail` shows. -/
structure Extent where
  bytes : Bool := false
  /-- Whether the number was written with a `+` or a `-`. -/
  sign : Option Char := none
  count : Nat := 10
  deriving DecidableEq, Repr, Inhabited

namespace Extent

/-- The units that a count may have. -/
def units : String := "bkKmMGTPEZYRQ"

/-- Read a count such as `3`, `+3` or `-3`. -/
def read (bytes : Bool) (s : String) : Except String Extent :=
  let first := s.toList.head?
  let shown := if first = some '-' then String.ofList (s.toList.drop 1) else s
  match readAmount units shown with
  | .ok count => .ok ⟨bytes, first.filter fun c => c = '-' || c = '+', count⟩
  | .error e => .error ("invalid number of " ++ (if bytes then "bytes" else "lines") ++ ": "
      ++ inQuotes shown ++ e.wording)

/-- The extent that options ask for. -/
def ofOptions (options : List (String × String)) : Except String Extent :=
  options.foldlM (fun extent (option, value) =>
    if option = "n" then read false value else if option = "c" then read true value else .ok extent) {}

end Extent

/-! ## Positions in packed bytes -/

/-- The place after the next `n` ends of records, from a place on, and how many ends are wanting. -/
def skipRecords (ending : UInt8) (bytes : ByteArray) (i n : Nat) : Nat × Nat :=
  if h : i < bytes.size then
    if n = 0 then (i, 0)
    else skipRecords ending bytes (i + 1) (if bytes[i] = ending then n - 1 else n)
  else (i, n)
termination_by bytes.size - i

/-- The place where the last `n` records before a place begin; an end that stands right before the
place belongs to the last record. -/
def recordsBack (ending : UInt8) (bytes : ByteArray) : (place n : Nat) → (isLast : Bool) → Nat
  | 0, _, _ => 0
  | i + 1, n, isLast =>
    if n = 0 then i + 1
    else if bytes[i]?.any (· = ending) && !isLast then
      if n = 1 then i + 1 else recordsBack ending bytes i (n - 1) false
    else recordsBack ending bytes i n false

/-- Where the last `n` records, or bytes, of some bytes begin. -/
def startOfLast (extent : Extent) (ending : UInt8) (bytes : ByteArray) : Nat :=
  if extent.bytes then bytes.size - extent.count
  else recordsBack ending bytes bytes.size extent.count true

/-! ## Showing parts -/

/-- Write bytes to standard output. -/
def printBytes (bytes : ByteArray) : Task Unit :=
  Task.print (Octets.unpack bytes)

/-- Show the first records or bytes that a descriptor yields; at most `fuel` pieces are read. What was
read too much of a file is given back. -/
def showFirst (bytes : Bool) (ending : UInt8) (fd : Nat) :
    (fuel : Nat) → (n : Nat) → Task (Except OsError Unit)
  | 0, _ => return .ok ()
  | fuel + 1, n => do
    if n = 0 then return .ok ()
    match ← Task.readBytes fd (Call.upTo (if bytes then min n 8192 else 8192)) Task.patience with
    | .error e => return .error e
    | .ok chunk =>
      if chunk.isEmpty then return .ok ()
      let (length, left) := if bytes then (chunk.size, n - chunk.size)
        else skipRecords ending chunk 0 n
      Task.call (Call.seekBack fd (chunk.size - length))
      printBytes (chunk.extract 0 length)
      showFirst bytes ending fd fuel left

/-- Show all that a descriptor yields but for the last records or bytes. What is held back is given
back to a file in the end. At most `fuel` pieces are read. -/
def showAllBut (extent : Extent) (ending : UInt8) (fd : Nat) :
    (fuel : Nat) → (held : ByteArray) → Task (Except OsError Unit)
  | 0, _ => return .ok ()
  | fuel + 1, held => do
    match ← Task.readBytes fd (Call.upTo 65536) Task.patience with
    | .error e => return .error e
    | .ok chunk =>
      let all := held ++ chunk
      let start := startOfLast extent ending all
      printBytes (all.extract 0 start)
      let held := all.extract start all.size
      if chunk.isEmpty then
        Task.call (Call.seekBack fd held.size)
        return .ok ()
      if ← Task.isRefused then return .ok ()
      showAllBut extent ending fd fuel held

/-- Show all that a descriptor yields after so many records or bytes. -/
def showFrom (extent : Extent) (ending : UInt8) (fd : Nat) :
    (fuel : Nat) → (n : Nat) → Task (Except OsError Unit)
  | 0, _ => return .ok ()
  | fuel + 1, n => do
    match ← Task.readBytes fd (Call.upTo 65536) Task.patience with
    | .error e => return .error e
    | .ok chunk =>
      if chunk.isEmpty || (← Task.isRefused) then return .ok ()
      let (start, left) := if extent.bytes then (min n chunk.size, n - chunk.size)
        else skipRecords ending chunk 0 n
      printBytes (chunk.extract start chunk.size)
      showFrom extent ending fd fuel left

/-- Show the last records or bytes that a descriptor yields. -/
def showLast (extent : Extent) (ending : UInt8) (fd : Nat) : Task (Except OsError Unit) := do
  match ← Task.readOn fd Task.patience .empty with
  | .error e => return .error e
  | .ok bytes =>
    printBytes (bytes.extract (startOfLast extent ending bytes) bytes.size)
    return .ok ()

/-- Go on to show what is added to a file; it is waited for, without end. -/
def follow (fd : Nat) : (fuel : Nat) → Task Unit
  | 0 => return
  | fuel + 1 => do
    match ← Task.call (Call.file? fd) with
    | some (id, { stream := .file i _ _, .. }) =>
      let position (k : Kernel) : Nat := match (k.openFile id).stream with
        | .file _ position _ => position
        | _ => 0
      Task.await (fun k => position k < (k.files.node i).bytes.size) none
      match ← Task.readBytes fd (Call.upTo 65536) Task.patience with
      | .error _ => return
      | .ok chunk =>
        printBytes chunk
        if ← Task.isRefused then return
        follow fd fuel
    | _ => return

/-- How an input is called. -/
def inputName (operand : String) : String :=
  if operand = "-" then "standard input" else operand

/-- Show a part of one input: whether it could be read. -/
def showPart (title? : Option String) (operand : String)
    (part : (fd : Nat) → Task (Except OsError Unit)) : Task Bool := do
  let shown (fd : Nat) : Task (Except OsError Unit) := do
    if let some title := title? then Task.print title
    part fd
  let outcome ←
    if operand = "-" then shown 0
    else
      match ← Task.openPath operand .read with
      | .error e =>
        Task.complain
          ("cannot open " ++ shellQuoted operand ++ " for reading: " ++ e.wording)
        return false
      | .ok fd =>
        let outcome ← shown fd
        Task.close fd
        pure outcome
  match outcome with
  | .ok () => return true
  | .error e =>
    Task.complain ("error reading " ++ shellQuoted (inputName operand) ++ ": " ++ e.wording)
    return false

/-- Show a part of inputs, each under a heading if they are titled: whether all could be read. -/
def showEach (titled : Bool) (part : (fd : Nat) → Task (Except OsError Unit)) :
    (isFirst : Bool) → List String → Task Bool
  | _, [] => return true
  | isFirst, operand :: rest => do
    let title := (if isFirst then "" else "\n") ++ "==> " ++ inputName operand ++ " <==\n"
    let ok ← showPart (if titled then some title else none) operand part
    if ← Task.isRefused then return ok
    let others ← showEach titled part (isFirst && !ok) rest
    return ok && others

/-- Show a part of every input, under headings when there are several or the last option about them
asks for some. -/
def showParts (a : Arguments) (part : (fd : Nat) → Task (Except OsError Unit)) : Task Nat := do
  let titled := match (a.last? ["q", "v"]).map Prod.fst with
    | some "q" => false
    | some _ => true
    | none => a.operands.length > 1
  return if ← showEach titled part true (orStdin a.operands) then 0 else 1

/-! ## `head` -/

/-- The options that stand for the letters after the digits of an argument such as `-5c`. -/
def trailingOptions (digits : List Char) : List Char → Except Char (List String)
  | [] => .ok []
  | c :: cs => do
    let rest ← trailingOptions digits cs
    let number (unit : List Char) : String := .ofList (digits ++ unit)
    match c with
    | 'c' => return "-c" :: number [] :: rest
    | 'l' => return "-n" :: number [] :: rest
    | 'q' => return "-q" :: rest
    | 'v' => return "-v" :: rest
    | 'z' => return "-z" :: rest
    | c => if c = 'b' || c = 'k' || c = 'm' then return "-c" :: number [c] :: rest else .error c

/-- The arguments with a first one such as `-5` or `-5c` written as the options it stands for, or the
letter that is none. -/
def expandCount (args : List String) : Except Char (List String) :=
  match args with
  | [] => .ok []
  | arg :: rest =>
    match arg.toList with
    | '-' :: d :: ds =>
      if !d.isDigit then .ok args
      else do
        let digits := (d :: ds).takeWhile Char.isDigit
        let options ← trailingOptions digits ((d :: ds).drop digits.length)
        return "-n" :: .ofList digits :: options ++ rest
    | _ => .ok args

/-- Show the first part of inputs: `head [-qvz] [-n count] [-c count] [file…]`. -/
def head (args : List String) : Task Nat :=
  let table : OptionTable :=
    { flags := "qvz0123456789", valued := "nc"
      names := [("lines", "n"), ("bytes", "c"), ("quiet", "q"), ("silent", "q"), ("verbose", "v"),
        ("zero-terminated", "z")] }
  let trailing (letter : Char) : Task Nat := misuse ("invalid trailing option -- " ++ letter.toString) 1
  match expandCount args with
  | .error letter => trailing letter
  | .ok args =>
    withOptions table args fun a => do
      if let some letter := a.letters.find? Char.isDigit then return (← trailing letter)
      match Extent.ofOptions a.options with
      | .error e =>
        Task.complain e
        return 1
      | .ok extent =>
        let ending := if a.has "z" then 0 else 10
        showParts a fun fd =>
          if extent.sign = some '-' then showAllBut extent ending fd Task.patience .empty
          else showFirst extent.bytes ending fd Task.patience extent.count

/-! ## `tail` -/

/-- An argument such as `+4`, `-2` or `-3c` as the options it stands for. -/
def readOldCount? (arg : String) : Option (List String) := do
  let (sign, cs) ← match arg.toList with
    | '+' :: cs => some ("+", cs)
    | '-' :: cs => if cs = [] || cs = ['c'] then none else some ("", cs)
    | _ => none
  let digits := cs.takeWhile Char.isDigit
  let (unit, rest) := match cs.drop digits.length with
    | 'b' :: rest => (some 'b', rest)
    | 'c' :: rest => (some 'c', rest)
    | 'l' :: rest => (none, rest)
    | rest => (none, rest)
  guard (rest = [] || rest = ['f'])
  let count := if digits.isEmpty then "10" else String.ofList digits
  let count := if unit = some 'b' then count ++ "b" else count
  return (if unit.isSome then "-c" else "-n") :: (sign ++ count) :: if rest.isEmpty then [] else ["-f"]

/-- The arguments with a first one such as `-2` written as the options it stands for. It may be
followed by one operand. -/
def expandOldCount (args : List String) : List String :=
  let isOption (arg : String) : Bool := arg.length > 1 && arg.toList.head? = some '-'
  match args with
  | [arg] => (readOldCount? arg).getD args
  | [arg, operand] =>
    if isOption operand && operand ≠ "--" then args
    else ((readOldCount? arg).map (· ++ [operand])).getD args
  | [arg, "--", operand] => ((readOldCount? arg).map (· ++ ["--", operand])).getD args
  | _ => args

/-- The options of `tail`. -/
def tailOptions : OptionTable :=
  { flags := "qvzfF0123456789", valued := "ncs", valuedWords := ["pid", "max-unchanged-stats"]
    words := ["retry"], openWords := ["follow"]
    names := [("lines", "n"), ("bytes", "c"), ("quiet", "q"), ("silent", "q"), ("verbose", "v"),
      ("zero-terminated", "z"), ("sleep-interval", "s")] }

/-- Show the last part of inputs, and on request go on with what is added to the last one:
`tail [-fqvz] [-n count] [-c count] [file…]`. -/
def tail (args : List String) : Task Nat :=
  withOptions tailOptions (expandOldCount args) fun a => do
    let follows := a.hasAny ["f", "F", "follow"]
    if let some letter := a.letters.find? Char.isDigit then
      Task.complain ("option used in invalid context -- " ++ letter.toString)
      return 1
    let manner := (a.value? "follow").filter (· ≠ "")
    if let some word := manner then
      if let .error complaint := readChoice "--follow" word [(["descriptor"], ()), (["name"], ())] then
        return (← misuse complaint 1)
    match Extent.ofOptions a.options with
    | .error e =>
      Task.complain e
      return 1
    | .ok extent =>
      if a.has "retry" && !follows then
        Task.complain "warning: --retry ignored; --retry is useful only when following"
      let ending := if a.has "z" then 0 else 10
      let last := (orStdin a.operands).length - 1
      let shown (fd : Nat) : Task (Except OsError Unit) := do
        let outcome ← if extent.sign = some '+'
          then showFrom extent ending fd Task.patience (extent.count - 1)
          else showLast extent ending fd
        if follows && last = 0 && outcome.toOption.isSome then follow fd Task.patience
        return outcome
      showParts a shown

end CommandSpec.Utility
