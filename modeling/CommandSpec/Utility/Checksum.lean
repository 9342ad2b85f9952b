import CommandSpec.Machine.Octets
import CommandSpec.Text.Digest
import CommandSpec.Utility.Amount
import CommandSpec.Utility.Inputs
import CommandSpec.Utility.Outcome

/-!
# `cksum`, `sum` and digests of files

Each of them writes a checksum of every input. Digests that were written before can be checked.
-/

namespace CommandSpec.Utility

/-! ## Checksums -/

/-- The remainder that the checksum of the standard has for a byte. -/
def crcEntry (byte : Nat) : UInt32 :=
  (List.range 8).foldl (fun (r : UInt32) _ =>
    if r &&& 0x80000000 ≠ 0 then (r <<< 1) ^^^ 0x04c11db7 else r <<< 1) (byte.toUInt32 <<< 24)

/-- The remainders for all bytes. -/
def crcTable : Array UInt32 :=
  ((List.range 256).map crcEntry).toArray

/-- A remainder with one more byte. -/
def crcStep (r : UInt32) (byte : UInt8) : UInt32 :=
  (r <<< 8) ^^^ (crcTable[((r >>> 24).toUInt8 ^^^ byte).toNat]?).getD 0

/-- The checksum of the standard: a remainder of the bytes and of their number. -/
def crcOf (bytes : ByteArray) : UInt32 :=
  let rec lengthBytes (fuel n : Nat) : List UInt8 := match fuel with
    | 0 => []
    | fuel + 1 => if n = 0 then [] else n.toUInt8 :: lengthBytes fuel (n / 256)
  ~~~((lengthBytes 10 bytes.size).foldl crcStep (bytes.foldl crcStep 0))

/-- A sum of bytes that is turned before each of them. -/
def turnedSum (bytes : ByteArray) : Nat :=
  (bytes.foldl (fun (s : UInt16) b => ((s >>> 1) ||| (s <<< 15)) + b.toUInt16) 0).toNat

/-- A sum of bytes in which what goes beyond 16 bits is added again. -/
def foldedSum (bytes : ByteArray) : Nat :=
  let s := bytes.foldl (fun s b => s + b.toNat) 0 % 2 ^ 32
  let r := s % 65536 + s / 65536
  r % 65536 + r / 65536

/-- How an input is summed up. -/
inductive Checksum where
  | crc
  | turned
  | folded
  | digest (d : Digest)
  deriving DecidableEq, Repr, Inhabited

namespace Checksum

/-- A number at the right of a column. -/
def padded (width : Nat) (fill : Char) (n : Nat) : String :=
  let digits := toString n
  .ofList (List.replicate (width - digits.length) fill) ++ digits

/-- A number of blocks that hold some bytes. -/
def blocks (size bytes : Nat) : Nat :=
  (bytes + size - 1) / size

/-- The name of a file as it stands in a line of checksums, and whether it had to be changed for that. -/
def lineName (name : String) : String × Bool :=
  let shown := name.toList.flatMap fun c => match c with
    | '\\' => ['\\', '\\']
    | '\n' => ['\\', 'n']
    | '\r' => ['\\', 'r']
    | c => [c]
  (.ofList shown, shown.length ≠ name.length)

/-- How checksums are written. -/
structure View where
  /-- Whether a digest is written with its name. -/
  tagged : Bool := false
  /-- Whether an input counts as binary. -/
  binary : Bool := false
  zero : Bool := false
  /-- Whether inputs are named. -/
  named : Bool := true
  deriving Inhabited

/-- The line for an input. -/
def line (c : Checksum) (v : View) (name : String) (bytes : ByteArray) : String :=
  let ending := if v.zero then "\x00" else "\n"
  let after := (if v.named then " " ++ name else "") ++ ending
  match c with
  | .crc => toString (crcOf bytes).toNat ++ " " ++ toString bytes.size ++ after
  | .turned => padded 5 '0' (turnedSum bytes) ++ " " ++ padded 5 ' ' (blocks 1024 bytes.size) ++ after
  | .folded => toString (foldedSum bytes) ++ " " ++ toString (blocks 512 bytes.size) ++ after
  | .digest d =>
    let (shown, changed) := if v.zero then (name, false) else lineName name
    let mark := if changed then "\\" else ""
    if v.tagged then mark ++ d.name ++ " (" ++ shown ++ ") = " ++ d.hexadecimal bytes ++ ending
    else mark ++ d.hexadecimal bytes ++ (if v.binary then " *" else "  ") ++ shown ++ ending

/-- Write the checksums of inputs. -/
def write (c : Checksum) (v : View) (operands : List String) : Task Nat := do
  let isNamed := v.named && !operands.isEmpty
  forOperands (orStdin operands) fun operand => do
    match ← readInput operand with
    | .error e => refuse (plainComplaint operand e)
    | .ok text =>
      let isDigest := match c with
        | .digest _ => true
        | _ => false
      Task.print (c.line { v with named := isNamed || isDigest } operand (Octets.pack text))
      return true

end Checksum

/-! ## Checking digests -/

/-- A line that tells the digest of a file. -/
structure DigestLine where
  digest : Digest
  hexadecimal : String
  name : String
  deriving DecidableEq, Repr, Inhabited

namespace DigestLine

/-- A name of which newlines and backslashes were changed for a line. -/
def plainName : List Char → Option (List Char)
  | [] => some []
  | '\\' :: 'n' :: rest => (plainName rest).map ('\n' :: ·)
  | '\\' :: 'r' :: rest => (plainName rest).map ('\r' :: ·)
  | '\\' :: '\\' :: rest => (plainName rest).map ('\\' :: ·)
  | '\\' :: _ => none
  | c :: rest => (plainName rest).map (c :: ·)

/-- Whether some characters are a digest. -/
def isDigest (d : Digest) (cs : List Char) : Bool :=
  cs.length = d.digits && cs.all fun c => c.isDigit || ('a' ≤ c.toLower && c.toLower ≤ 'f')

/-- What a line tells that may be about one of some digests. -/
def ofLine? (digests : List Digest) (line : List Char) : Option DigestLine := do
  let line := line.dropWhile fun c => c = ' ' || c = '\t'
  let (isChanged, line) := match line with
    | '\\' :: rest => (true, rest)
    | line => (false, line)
  let nameOf (cs : List Char) : Option String :=
    if isChanged then (plainName cs).map String.ofList else some (.ofList cs)
  let tagged (d : Digest) : Option DigestLine := do
    let start := (d.name ++ " (").toList
    guard (start.isPrefixOf line)
    let rest := (line.drop start.length).reverse
    let hexadecimal := (rest.takeWhile (· ≠ ' ')).reverse
    guard (isDigest d hexadecimal)
    let rest := rest.drop hexadecimal.length
    guard (" = )".toList.isPrefixOf rest)
    return { digest := d, hexadecimal := .ofList hexadecimal, name := ← nameOf (rest.drop 4).reverse }
  let plain (d : Digest) : Option DigestLine := do
    let hexadecimal := line.take d.digits
    guard (isDigest d hexadecimal)
    match line.drop d.digits with
    | ' ' :: ' ' :: name => return { digest := d, hexadecimal := .ofList hexadecimal, name := ← nameOf name }
    | ' ' :: '*' :: name => return { digest := d, hexadecimal := .ofList hexadecimal, name := ← nameOf name }
    | _ => none
  (digests.findSome? tagged).or (match digests with
    | [d] => plain d
    | _ => none)

end DigestLine

/-- How digests are checked. -/
structure DigestCheck where
  digests : List Digest
  /-- Whether only failures are told. -/
  quiet : Bool := false
  /-- Whether nothing is told of files. -/
  silent : Bool := false
  /-- Whether lines that tell no digest are a failure. -/
  strict : Bool := false
  /-- Whether such lines are complained about. -/
  warns : Bool := false
  /-- Whether files that are not there are passed over. -/
  ignoresMissing : Bool := false
  deriving Inhabited

/-- What came of a check. -/
structure CheckCount where
  good : Nat := 0
  malformed : Nat := 0
  unreadable : Nat := 0
  different : Nat := 0
  deriving DecidableEq, Repr, Inhabited

namespace DigestCheck

/-- Check one line. -/
def checkLine (c : DigestCheck) (source : String) (n : CheckCount) (number : Nat) (line : List Char) :
    Task CheckCount := do
  if line.isEmpty || line.head? = some '#' then return n
  match DigestLine.ofLine? c.digests line with
  | none =>
    if c.warns then
      let kind := match c.digests with
        | [d] => d.name
        | _ => "CRC"
      Task.complain (source ++ ": " ++ toString number ++ ": improperly formatted " ++ kind ++ " checksum line")
    return { n with malformed := n.malformed + 1 }
  | some l =>
    let shown := (Checksum.lineName l.name).1
    match ← readInput l.name with
    | .error e =>
      if c.ignoresMissing && e = .noEntry then return n
      Task.complain (plainComplaint l.name e)
      if !c.silent then Task.printLine (shown ++ ": FAILED open or read")
      return { n with unreadable := n.unreadable + 1 }
    | .ok text =>
      let isSame := l.digest.hexadecimal (Octets.pack text) = .ofList (l.hexadecimal.toList.map Char.toLower)
      if !c.silent && !(isSame && c.quiet) then
        Task.printLine (shown ++ if isSame then ": OK" else ": FAILED")
      return if isSame then { n with good := n.good + 1 } else { n with different := n.different + 1 }

/-- A warning about some things, if there are any. -/
def warn (n : Nat) (one many : String) : Task Unit := do
  if n > 0 then Task.complain ("WARNING: " ++ toString n ++ " " ++ if n = 1 then one else many)

/-- Check the lines of an input: whether all is well. -/
def checkInput (c : DigestCheck) (operand : String) : Task Bool := do
  let source := if operand = "-" then forShell "standard input" else forShell operand
  match ← readInput operand with
  | .error e => refuse (plainComplaint operand e)
  | .ok text =>
    let lines := (Text.lines text.toList).zipIdx
    let n ← lines.foldlM (fun n (line, k) => c.checkLine source n (k + 1) line) ({} : CheckCount)
    if n.good + n.unreadable + n.different = 0 && !c.ignoresMissing then
      return (← refuse (source ++ ": no properly formatted checksum lines found"))
    if !c.silent then
      warn n.malformed "line is improperly formatted" "lines are improperly formatted"
      warn n.unreadable "listed file could not be read" "listed files could not be read"
      warn n.different "computed checksum did NOT match" "computed checksums did NOT match"
      if c.ignoresMissing && n.good = 0 then Task.complain (source ++ ": no file was verified")
    return n.good > 0 && n.unreadable = 0 && n.different = 0 && (!c.strict || n.malformed = 0)

end DigestCheck

/-! ## Programs -/

/-- The options that all programs for digests have. -/
def digestOptions : OptionTable :=
  { flags := "bctwz"
    names := [("binary", "b"), ("check", "c"), ("text", "t"), ("warn", "w"), ("zero", "z")]
    words := ["tag", "quiet", "status", "strict", "ignore-missing"] }

/-- Write or check digests as options tell. -/
def digestsAs (a : Arguments) (digests : List Digest) (checksum : Checksum) (tagged : Bool) : Task Nat := do
  let isCheck := a.has "c"
  let bad? := if isCheck then none else ["ignore-missing", "status", "w", "quiet", "strict"].find? a.has
  if let some bad := bad? then
    let name := if bad = "w" then "warn" else bad
    return (← misuse ("the --" ++ name ++ " option is meaningful only when verifying checksums") 1)
  if isCheck then
    if a.has "tag" then
      return (← misuse "the --tag option is meaningless when verifying checksums" 1)
    let c : DigestCheck :=
      { digests, quiet := a.has "quiet", silent := a.has "status", strict := a.has "strict", warns := a.has "w"
        ignoresMissing := a.has "ignore-missing" }
    forOperands (orStdin a.operands) c.checkInput
  else checksum.write { tagged, binary := a.has "b", zero := a.has "z" } a.operands

/-- Write or check digests of one kind. -/
def digestSum (d : Digest) (args : List String) : Task Nat :=
  withOptions digestOptions args fun a => digestsAs a [d] (.digest d) (a.has "tag")

/-- Write or check digests of a length: `b2sum [-l bits] [file…]`. -/
def b2sum (args : List String) : Task Nat :=
  let table : OptionTable :=
    { digestOptions with valued := "l", names := digestOptions.names ++ [("length", "l")] }
  withOptions table args fun a => do
    let text := (a.value? "l").getD "0"
    let complain (more : String) : Task Nat := do
      Task.complain ("invalid length: " ++ inQuotes text)
      failWith 1 more
    match readAmountIn "invalid length" "" 0 (2 ^ 63) text with
    | .error complaint => failWith 1 complaint
    | .ok bits =>
      if bits > 512 then return (← complain ("maximum digest length for " ++ inQuotes "BLAKE2b" ++ " is 512 bits"))
      if bits % 8 ≠ 0 then return (← complain "length is not a multiple of 8")
      let d := Digest.blake2b (if bits = 0 then 64 else bits / 8)
      digestsAs a [d] (.digest d) (a.has "tag")

/-- Write checksums: `cksum [-a kind] [file…]`. -/
def cksum (args : List String) : Task Nat :=
  let table : OptionTable :=
    { digestOptions with
      valued := "al", words := digestOptions.words ++ ["untagged", "debug"]
      names := digestOptions.names ++ [("algorithm", "a"), ("length", "l")] }
  withOptions table args fun a => do
    let kinds : List (List String × Checksum) :=
      [(["bsd"], .turned), (["sysv"], .folded), (["crc"], .crc), (["md5"], .digest .md5), (["sha1"], .digest .sha1),
        (["sha224"], .digest .sha224), (["sha256"], .digest .sha256), (["sha384"], .digest .sha384),
        (["sha512"], .digest .sha512), (["blake2b"], .digest (.blake2b 64)), (["sm3"], .crc)]
    match readChoice "--algorithm" ((a.value? "a").getD "crc") kinds with
    | .error complaint => misuse complaint 1
    | .ok c =>
      let digests := match c with
        | .digest d => [d]
        | _ => Digest.all
      if a.has "c" && a.has "a" && digests.length > 1 then
        return (← failWith 1 "--check is not supported with --algorithm=\x7bbsd,sysv,crc\x7d")
      digestsAs a digests c (!a.has "untagged")

/-- Write checksums and numbers of blocks: `sum [-rs] [file…]`. -/
def sum (args : List String) : Task Nat :=
  withOptions { flags := "rs", names := [("sysv", "s")] } args fun a => do
    let isFolded := (a.last? ["r", "s"]).any (·.1 = "s")
    (if isFolded then Checksum.folded else .turned).write {} a.operands

end CommandSpec.Utility
