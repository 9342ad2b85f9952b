import CommandSpec.Machine.Octets
import CommandSpec.Utility.Fraction
import CommandSpec.Utility.Inputs
import CommandSpec.Utility.Outcome

/-!
# `dd`

`dd` copies its input in blocks. Every read takes at most one block, and what was read is written as it is or
is collected into blocks of another size. On the way bytes can be converted. In the end it is told how many
whole and how many partial blocks were read and written.
-/

namespace CommandSpec.Utility

/-- How much is told in the end. -/
inductive TransferReport where
  | nothing
  /-- Only the numbers of blocks. -/
  | blocks
  | all
  deriving DecidableEq, Repr, Inhabited

/-- An amount in blocks or in bytes. -/
structure BlockAmount where
  count : Nat := 0
  inBytes : Bool := false
  deriving DecidableEq, Repr, Inhabited

/-- How many whole blocks and how many bytes more an amount is. -/
def BlockAmount.split (a : BlockAmount) (size : Nat) : Nat × Nat :=
  if a.inBytes then (a.count / size, a.count % size) else (a.count, 0)

/-- What `dd` is asked to do. -/
structure Reblocking where
  input : Option String := none
  output : Option String := none
  inputSize : Nat := 512
  outputSize : Nat := 512
  /-- The size for both, if one was given. -/
  size? : Option Nat := none
  /-- The size of the records that lines are made into, or that are made into lines. -/
  recordSize : Nat := 0
  skip : BlockAmount := {}
  seek : BlockAmount := {}
  limit : Option BlockAmount := none
  conversions : List String := []
  inputFlags : List String := []
  outputFlags : List String := []
  report : TransferReport := .all
  deriving Inhabited

namespace Reblocking

/-! ## Operands -/

/-- What a unit counts for. -/
def unit? : List Char → Option Nat
  | [] => some 1
  | ['c'] => some 1
  | ['w'] => some 2
  | ['b'] => some 512
  | ['B'] => some 1
  | letter :: rest => do
    let power := (← "KMGTPEZY".toList.idxOf? (if letter = 'k' then 'K' else letter)) + 1
    match rest with
    | [] => some (1024 ^ power)
    | ['i', 'B'] => some (1024 ^ power)
    | ['B'] => some (1000 ^ power)
    | ['D'] => some (1000 ^ power)
    | _ => none

/-- A number with a unit, or several of them with `x` between that are multiplied. -/
def readNumber? (text : String) : Option Nat := do
  let factors ← (text.splitOn "x").mapM fun part => do
    let digits := part.toList.takeWhile Char.isDigit
    let unit := part.toList.drop digits.length
    if digits.isEmpty then
      guard (!unit.isEmpty && unit ≠ ['B'])
      unit? unit
    else return Text.numberIn 10 digits * (← unit? unit)
  return factors.foldl (· * ·) 1

/-- The conversions that there are. -/
def conversionNames : List String :=
  ["ascii", "ebcdic", "ibm", "block", "unblock", "lcase", "ucase", "swab", "noerror", "nocreat", "excl", "notrunc",
    "sync", "fdatasync", "fsync", "sparse"]

/-- The flags for input and output that there are. -/
def flagNames : List String :=
  ["append", "binary", "cio", "direct", "directory", "dsync", "noatime", "nocache", "noctty", "nofollow", "nolinks",
    "nonblock", "sync", "text"]

/-- What is wrong with an operand. -/
structure OperandFault where
  complaint : String
  /-- Whether it is told where to find help. -/
  hinted : Bool := false

/-- What one more operand asks for, or what is wrong with it. -/
def addOperand (r : Reblocking) (operand : String) : Except OperandFault Reblocking := do
  let written := operand.toList.takeWhile (· ≠ '=')
  let unknown : OperandFault := ⟨"unrecognized operand " ++ inQuotes operand, true⟩
  if written.length = operand.length then throw unknown
  let value := String.ofList (operand.toList.drop (written.length + 1))
  let number (least : Nat) : Except OperandFault Nat :=
    match readNumber? value with
    | none => .error { complaint := "invalid number: " ++ inQuotes value }
    | some n =>
      if n < least then .error { complaint := "invalid number: " ++ inQuotes value }
      else if n < 2 ^ 63 then .ok n
      else .error { complaint := "invalid number: " ++ inQuotes value ++ ": Value too large for defined data type" }
  let amount : Except OperandFault BlockAmount := do
    return { count := ← number 0, inBytes := value.toList.contains 'B' }
  let words (kind : String) (names : List String) : Except OperandFault (List String) := do
    let given := value.splitOn ","
    match given.find? fun w => !names.contains w with
    | some word => throw ⟨"invalid " ++ kind ++ ": " ++ inQuotes word, true⟩
    | none => return given
  match String.ofList written with
  | "if" => return { r with input := some value }
  | "of" => return { r with output := some value }
  | "ibs" => return { r with inputSize := ← number 1 }
  | "obs" => return { r with outputSize := ← number 1 }
  | "bs" => return { r with size? := some (← number 1) }
  | "cbs" => return { r with recordSize := ← number 1 }
  | "skip" => return { r with skip := ← amount }
  | "iseek" => return { r with skip := ← amount }
  | "seek" => return { r with seek := ← amount }
  | "oseek" => return { r with seek := ← amount }
  | "count" => return { r with limit := some (← amount) }
  | "conv" => return { r with conversions := r.conversions ++ (← words "conversion" conversionNames) }
  | "iflag" =>
    let flags ← words "input flag" ("fullblock" :: "count_bytes" :: "skip_bytes" :: flagNames)
    return { r with inputFlags := r.inputFlags ++ flags }
  | "oflag" => return { r with outputFlags := r.outputFlags ++ (← words "output flag" ("seek_bytes" :: flagNames)) }
  | "status" =>
    match value with
    | "none" => return { r with report := .nothing }
    | "noxfer" => return { r with report := .blocks }
    | "progress" => return { r with report := .all }
    | _ => throw ⟨"invalid status level: " ++ inQuotes value, true⟩
  | _ => throw unknown

/-- Whether a conversion was asked for. -/
def converts (r : Reblocking) (name : String) : Bool :=
  r.conversions.contains name

/-- What was asked for altogether, or what does not go together. -/
def settle (r : Reblocking) : Except String Reblocking := do
  let r := if r.recordSize ≠ 0 then r
    else { r with conversions := r.conversions.filter fun c => c ≠ "block" && c ≠ "unblock" }
  let many (names : List String) : Bool := 1 < (names.filter r.converts).length
  if many ["ascii", "ebcdic", "ibm"] then throw "cannot combine any two of \x7bascii,ebcdic,ibm\x7d"
  if many ["block", "unblock"] then throw "cannot combine block and unblock"
  if many ["lcase", "ucase"] then throw "cannot combine lcase and ucase"
  if many ["excl", "nocreat"] then throw "cannot combine excl and nocreat"
  let inBytes (a : BlockAmount) (flags : List String) (flag : String) : BlockAmount :=
    { a with inBytes := a.inBytes || flags.contains flag }
  return { r with
    inputSize := r.size?.getD r.inputSize
    outputSize := r.size?.getD r.outputSize
    skip := inBytes r.skip r.inputFlags "skip_bytes"
    seek := inBytes r.seek r.outputFlags "seek_bytes"
    limit := r.limit.map fun a => inBytes a r.inputFlags "count_bytes" }

/-- Whether what was read is written as it is, block by block. -/
def isDirect (r : Reblocking) : Bool :=
  r.size?.isSome && ["block", "unblock", "lcase", "ucase", "swab", "ascii", "ebcdic", "ibm"].all fun c => !r.converts c

/-! ## Conversions -/

/-- How far a copy has come. -/
structure State where
  fullIn : Nat := 0
  partialIn : Nat := 0
  fullOut : Nat := 0
  partialOut : Nat := 0
  bytes : Nat := 0
  /-- What was converted but not written. -/
  pending : ByteArray := .empty
  /-- A byte that waits for the one it is swapped with. -/
  odd : Option UInt8 := none
  /-- How much of the current record was read. -/
  column : Nat := 0
  /-- Blanks that are written only if something follows. -/
  blanks : Nat := 0
  truncated : Nat := 0
  /-- Whether a warning of partial blocks was given. -/
  warned : Bool := false
  deriving Inhabited

/-- Bytes with neighbours swapped, after one that waits: the byte that waits then, and the bytes. -/
def swap : Option UInt8 → List UInt8 → Option UInt8 × List UInt8
  | odd, [] => (odd, [])
  | none, b :: bs => swap (some b) bs
  | some a, b :: bs =>
    let (odd, rest) := swap none bs
    (odd, b :: a :: rest)

/-- The byte that ends a line. -/
def newline : UInt8 := 10

/-- The byte that fills records. -/
def blank : UInt8 := 32

/-- Make one byte of lines a part of records. -/
def toRecord (r : Reblocking) (s : State) (b : UInt8) : State :=
  if b = newline then
    { s with
      pending := s.pending ++ ⟨Array.replicate (r.recordSize - s.column) blank⟩
      column := 0 }
  else if s.column < r.recordSize then { s with pending := s.pending.push b, column := s.column + 1 }
  else { s with truncated := if s.column = r.recordSize then s.truncated + 1 else s.truncated, column := s.column + 1 }

/-- Make one byte of records a part of lines. -/
def toLine (r : Reblocking) (s : State) (b : UInt8) : State :=
  let s := if r.recordSize ≤ s.column then { s with pending := s.pending.push newline, column := 0, blanks := 0 } else s
  let s := { s with column := s.column + 1 }
  if b = blank then { s with blanks := s.blanks + 1 }
  else { s with pending := (s.pending ++ ⟨Array.replicate s.blanks blank⟩).push b, blanks := 0 }

/-- Convert what was read. -/
def convert (r : Reblocking) (s : State) (bytes : ByteArray) : State :=
  let recase (b : UInt8) : UInt8 :=
    if r.converts "lcase" && 65 ≤ b && b ≤ 90 then b + 32
    else if r.converts "ucase" && 97 ≤ b && b ≤ 122 then b - 32
    else b
  let bytes := if r.converts "lcase" || r.converts "ucase" then bytes.data.map recase else bytes.data
  let (odd, bytes) := if r.converts "swab" then
    let (odd, swapped) := swap s.odd bytes.toList
    (odd, swapped.toArray) else (none, bytes)
  let s := { s with odd }
  if r.converts "block" then bytes.foldl (toRecord r) s
  else if r.converts "unblock" then bytes.foldl (toLine r) s
  else { s with pending := s.pending ++ ⟨bytes⟩ }

/-- Convert what is left in the end. -/
def conclude (r : Reblocking) (s : State) : State :=
  let s := s.odd.elim s fun b =>
    let s := { s with odd := none }
    if r.converts "block" then toRecord r s b
    else if r.converts "unblock" then toLine r s b
    else { s with pending := s.pending.push b }
  if r.converts "block" && 0 < s.column then toRecord r s newline
  else if r.converts "unblock" && 0 < s.column then { s with pending := s.pending.push newline }
  else s

/-! ## Copying -/

/-- The name of the input in complaints. -/
def inputName (r : Reblocking) : String := r.input.getD "standard input"

/-- The name of the output in complaints. -/
def outputName (r : Reblocking) : String := r.output.getD "standard output"

/-- Write one block: the state after it, or nothing if it was refused. -/
def writeBlock (r : Reblocking) (fd size : Nat) (s : State) (block : ByteArray) : Task (Option State) := do
  match ← Task.writeBytes fd Task.patience block with
  | .error e =>
    Task.complain ("error writing " ++ shellQuoted r.outputName ++ ": " ++ e.wording)
    return none
  | .ok () =>
    let s := { s with bytes := s.bytes + block.size }
    return some (if block.size = size then { s with fullOut := s.fullOut + 1 }
      else { s with partialOut := s.partialOut + 1 })

/-- Write whole blocks of what was collected; at most `fuel`. -/
def drain (r : Reblocking) (fd : Nat) : (fuel : Nat) → State → Task (Option State)
  | 0, s => return some s
  | fuel + 1, s => do
    if s.pending.size < r.outputSize then return some s
    let block := s.pending.extract 0 r.outputSize
    match ← r.writeBlock fd r.outputSize { s with pending := s.pending.extract r.outputSize s.pending.size } block with
    | none => return none
    | some s => drain r fd fuel s

/-- Read a block, in several pieces if it has to be whole. -/
def readBlock (r : Reblocking) (fd size : Nat) : (fuel : Nat) → ByteArray → Task (Except OsError ByteArray)
  | 0, soFar => return .ok soFar
  | fuel + 1, soFar => do
    match ← Task.readBytes fd (Call.upTo (size - soFar.size)) Task.patience with
    | .error e => return .error e
    | .ok bytes =>
      let all := soFar ++ bytes
      if bytes.isEmpty || all.size = size || !r.inputFlags.contains "fullblock" then return .ok all
      readBlock r fd size fuel all

/-- Copy block by block, at most `fuel` blocks: the state in the end, and whether all went well. `last` is the
size of the block before if that was a partial one. -/
def copyBlocks (r : Reblocking) (input output : Nat) : (fuel : Nat) → (last : Nat) → State → Task (State × Bool)
  | 0, _, s => return (s, true)
  | fuel + 1, last, s => do
    let (blocks, rest) := (r.limit.map fun a => a.split r.inputSize).getD (2 ^ 63, 0)
    let read := s.fullIn + s.partialIn
    if blocks + (if rest = 0 then 0 else 1) ≤ read then return (s, true)
    let wanted := if blocks ≤ read then rest else r.inputSize
    match ← r.readBlock input wanted Task.patience .empty with
    | .error e =>
      Task.complain ("error reading " ++ shellQuoted r.inputName ++ ": " ++ e.wording)
      return (s, false)
    | .ok bytes =>
      if bytes.isEmpty then return (s, true)
      let mayWarn := !s.warned && r.isDirect && !r.inputFlags.contains "fullblock" && (r.limit.isSome || r.skip.count ≠ 0)
      let warns := mayWarn && 0 < last
      if warns && r.report ≠ .nothing then
        Task.complain ("warning: partial read (" ++ toString last ++ " byte" ++ (if last = 1 then "" else "s")
          ++ "); suggest iflag=fullblock")
      let isPartial := bytes.size < r.inputSize
      let s := { s with warned := s.warned || warns }
      let s := if isPartial then { s with partialIn := s.partialIn + 1 } else { s with fullIn := s.fullIn + 1 }
      let fill : UInt8 := if r.converts "block" || r.converts "unblock" then blank else 0
      let block := if isPartial && r.converts "sync" then bytes ++ ⟨Array.replicate (r.inputSize - bytes.size) fill⟩
        else bytes
      let next := if isPartial && !mayWarn then 0 else if isPartial then bytes.size else 0
      let written? ← if r.isDirect then r.writeBlock output r.inputSize s block
        else r.drain output Task.patience (r.convert s block)
      match written? with
      | none => return (s, false)
      | some s => copyBlocks r input output fuel next s

/-- Pass over blocks of an input that has no place to move: how many blocks were left; at most `fuel`. -/
def passOver (r : Reblocking) (fd : Nat) : (fuel blocks rest : Nat) → Task (Nat × Nat)
  | 0, blocks, rest => return (blocks, rest)
  | fuel + 1, blocks, rest => do
    if blocks = 0 && rest = 0 then return (0, 0)
    match ← r.readBlock fd (if blocks = 0 then rest else r.inputSize) Task.patience .empty with
    | .error e =>
      Task.complain ("error reading " ++ shellQuoted r.inputName ++ ": " ++ e.wording)
      return (blocks, rest)
    | .ok bytes =>
      if bytes.isEmpty then return (blocks, rest)
      if blocks = 0 then return (0, 0) else passOver r fd fuel (blocks - 1) rest

/-- Skip the start of the input: whether it is that long. -/
def skipInput (r : Reblocking) (fd : Nat) : Task Bool := do
  let (blocks, rest) := r.skip.split r.inputSize
  match ← Task.call (Call.file? fd) with
  | some (id, { stream := .file i position _, .. }) =>
    let (files, _) ← Task.place
    let target := position + blocks * r.inputSize + rest
    Task.call (Call.move id target)
    return target ≤ (files.node i).bytes.size
  | _ =>
    let (blocks, rest) ← r.passOver fd Task.patience blocks rest
    return blocks = 0 && rest = 0

/-- Leave the start of the output out: whether that was possible. -/
def seekOutput (r : Reblocking) (fd : Nat) : Task Bool := do
  let (blocks, rest) := r.seek.split r.outputSize
  match ← Task.call (Call.file? fd) with
  | some (id, { stream := .file _ position _, .. }) =>
    Task.call (Call.move id (position + blocks * r.outputSize + rest))
    return true
  | some (_, { stream := .device _, .. }) => return true
  | _ => return false

/-- Open the output; of a file that was there only the part that is left out stays, unless all of it does. -/
def openOutput (r : Reblocking) (path : String) : Task (Except OsError Nat) := do
  let (files, cwd) ← Task.place
  let found := files.resolve cwd path
  if r.converts "excl" && found.isOk then return .error .alreadyExists
  if r.converts "nocreat" then
    if let .error e := found then return .error e
  let (blocks, rest) := r.seek.split r.outputSize
  let offset := blocks * r.outputSize + rest
  let keeps := r.converts "notrunc" || 0 < offset
  match ← Task.openPath path (if r.outputFlags.contains "append" then .append else if keeps then .readWrite else .write) with
  | .error e => return .error e
  | .ok fd =>
    if keeps && !r.converts "notrunc" then
      let _ ← Task.change fun files cwd => do
        let i ← files.resolve cwd path
        let bytes := (files.node i).bytes
        let gap : ByteArray := ⟨Array.replicate (offset - bytes.size) 0⟩
        let cut := bytes.extract 0 offset ++ gap
        return if (files.node i).isFile then files.store i (.file cut) else files
    return .ok fd

/-- A number of bytes in the greatest unit of which it has one, or in the unit of a power at least. -/
def inUnits (base least : Nat) (n : Nat) : String :=
  let rec go (fuel power : Nat) : Nat := match fuel with
    | 0 => power
    | fuel + 1 => if base ^ (power + 1) ≤ n then go fuel (power + 1) else power
  let power := go 8 least
  let letters := if base = 1000 then "kMGTPEZY" else "KMGTPEZY"
  let tenths := (20 * n + base ^ power) / (2 * base ^ power)
  let shown := if power = 0 then toString n
    else if tenths < 100 then toString (tenths / 10) ++ "." ++ toString (tenths % 10)
    else toString ((2 * n + base ^ power) / (2 * base ^ power))
  let unit := if power = 0 then "" else ((letters.toList[power - 1]?).map Char.toString).getD ""
  shown ++ " " ++ unit ++ (if power = 0 || base = 1000 then "" else "i") ++ "B"

/-- Tell how much was copied in a time. -/
def tell (r : Reblocking) (s : State) (time : Nat) : Task Unit := do
  if r.report = .nothing then return
  let pair (full part : Nat) : String := toString full ++ "+" ++ toString part
  Task.remark (pair s.fullIn s.partialIn ++ " records in\n" ++ pair s.fullOut s.partialOut ++ " records out")
  if 0 < s.truncated then
    Task.remark (toString s.truncated ++ " truncated record" ++ (if s.truncated = 1 then "" else "s"))
  if r.report = .all then
    let units := if s.bytes < 1000 then "" else if s.bytes < 1024 then " (" ++ inUnits 1000 0 s.bytes ++ ")"
      else " (" ++ inUnits 1000 0 s.bytes ++ ", " ++ inUnits 1024 0 s.bytes ++ ")"
    let seconds := String.ofList (showGeneral false 6 ⟨time, 1000000⟩)
    let speed := if time = 0 then "Infinity B" else inUnits 1000 1 (s.bytes * 1000000 / time)
    Task.remark (toString s.bytes ++ " byte" ++ (if s.bytes = 1 then "" else "s") ++ units ++ " copied, " ++ seconds
      ++ " s, " ++ speed ++ "/s")

/-- Copy between two descriptors. -/
def copy (r : Reblocking) (input output start : Nat) : Task Nat := do
  let finish (s : State) (ok : Bool) : Task Nat := do
    r.tell s ((← Task.now) - start)
    return if ok then 0 else 1
  if r.skip.count ≠ 0 then
    if !(← r.skipInput input) && r.report ≠ .nothing then
      Task.complain (forShell r.inputName ++ ": cannot skip to specified offset")
  if r.seek.count ≠ 0 then
    if !(← r.seekOutput output) then
      Task.complain (shellQuoted r.outputName ++ ": cannot seek: Illegal seek")
      return (← finish {} false)
  let (s, ok) ← r.copyBlocks input output Task.patience 0 {}
  let s := r.conclude s
  match ← if ok then r.drain output Task.patience s else pure (some s) with
  | none => finish s false
  | some s =>
    if s.pending.isEmpty then finish s ok
    else
      match ← r.writeBlock output 0 { s with pending := .empty } s.pending with
      | none => finish s false
      | some s => finish s ok

end Reblocking

/-- Copy in blocks: `dd [operand]…`. -/
def dd (args : List String) : Task Nat :=
  withOptions { edition := "(coreutils) 9.1" } args fun a => do
    let start ← Task.now
    for operand in a.operands do
      let value := operand.toList.drop ((operand.toList.takeWhile (· ≠ '=')).length + 1)
      if ['0', 'x'].isPrefixOf value then
        Task.complain ("warning: " ++ inQuotes "0x" ++ " is a zero multiplier; use " ++ inQuotes "00x"
          ++ " if that is intended")
    match a.operands.foldlM Reblocking.addOperand {} with
    | .error fault => if fault.hinted then misuse fault.complaint 1 else failWith 1 fault.complaint
    | .ok r =>
      match r.settle with
      | .error complaint => failWith 1 complaint
      | .ok r =>
        let failed (path : String) (e : OsError) : Task Nat :=
          failWith 1 ("failed to open " ++ shellQuoted path ++ ": " ++ e.wording)
        let opened ← match r.input with
          | none => pure (Except.ok 0)
          | some path => Task.openPath path .read
        match opened with
        | .error e => failed r.inputName e
        | .ok input =>
          let opened ← match r.output with
            | none => pure (Except.ok 1)
            | some path => r.openOutput path
          match opened with
          | .error e => failed r.outputName e
          | .ok output => r.copy input output start

end CommandSpec.Utility
