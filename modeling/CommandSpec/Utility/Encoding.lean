import CommandSpec.Text.Integer
import CommandSpec.Utility.Inputs
import CommandSpec.Utility.Outcome

/-!
# `base64`, `base32` and `basenc`

Bytes can be written with few characters: the bits of a group of bytes are cut into pieces of one length,
and each piece is written as a character of an alphabet. A group that is not full is filled up with `=`.
-/

namespace CommandSpec.Utility

/-- A way to write bytes. -/
structure Encoding where
  /-- The characters, each at the place of the piece that it stands for. -/
  alphabet : List Char
  /-- How many bits a character stands for. -/
  bits : Nat
  deriving Inhabited

namespace Encoding

/-- The capital letters. -/
def capitals : List Char :=
  (List.range 26).map fun k => Char.ofNat ('A'.toNat + k)

/-- The decimal digits. -/
def digits : List Char :=
  "0123456789".toList

/-- Letters, digits and two more characters. -/
def sixBits (last : List Char) : Encoding :=
  { alphabet := capitals ++ capitals.map Char.toLower ++ digits ++ last, bits := 6 }

/-- The encodings, each with its name. -/
def all : List (String × Encoding) :=
  [("base64", sixBits ['+', '/']), ("base64url", sixBits ['-', '_']),
    ("base32", { alphabet := capitals ++ "234567".toList, bits := 5 }),
    ("base32hex", { alphabet := digits ++ capitals.take 22, bits := 5 }),
    ("base16", { alphabet := digits ++ capitals.take 6, bits := 4 }),
    ("base2msbf", { alphabet := ['0', '1'], bits := 1 })]

/-- How many characters stand for a full group. -/
def groupLength (e : Encoding) : Nat :=
  8 / Nat.gcd e.bits 8

/-- How many bytes a full group has. -/
def groupBytes (e : Encoding) : Nat :=
  e.bits / Nat.gcd e.bits 8

/-- The characters for at most one group of bytes. -/
def encodeGroup (e : Encoding) (bytes : List Char) : List Char :=
  let count := (8 * bytes.length + e.bits - 1) / e.bits
  let value := bytes.foldl (fun n c => 256 * n + c.toNat) 0 * 2 ^ (count * e.bits - 8 * bytes.length)
  let shown := (List.range count).map fun k =>
    (e.alphabet[value / 2 ^ (e.bits * (count - 1 - k)) % 2 ^ e.bits]?).getD '='
  shown ++ List.replicate (e.groupLength - count) '='

/-- The bytes that a group of characters stands for, and whether it is well formed. Of a group that is not,
the bytes before the fault are taken. -/
def decodeGroup (e : Encoding) (group : List Char) : List Char × Bool :=
  let pieces := group.map fun c => e.alphabet.idxOf? c
  let known := (pieces.takeWhile Option.isSome).filterMap id
  let bits := known.length * e.bits
  let value := known.foldl (fun n k => 2 ^ e.bits * n + k) 0
  let bytes := (List.range (bits / 8)).map fun k => Char.ofNat (value / 2 ^ (bits - 8 * (k + 1)) % 256)
  let isFull := group.length = e.groupLength
  let isFilled := (group.drop known.length).all (· = '=')
  let isWhole := known ≠ [] && bits % 8 < e.bits
  if e.bits = 5 && !isFull then ([], false) else (bytes, isFull && isFilled && isWhole)

/-- Cut a list into groups of a length; what is left has fewer elements. -/
def groups (length : Nat) : (fuel : Nat) → List Char → List (List Char) × List Char
  | 0, cs => ([], cs)
  | fuel + 1, cs =>
    if cs.length < length || length = 0 then ([], cs)
    else
      let (more, rest) := groups length fuel (cs.drop length)
      (cs.take length :: more, rest)

/-- Characters with a newline after every line of a width, and the column after them. -/
def wrap (width : Nat) (column : Nat) (cs : List Char) : List Char × Nat :=
  if width = 0 then (cs, 0)
  else
    let (shown, column) := cs.foldl (fun (shown, column) c =>
      if column = width then (c :: '\n' :: shown, 1) else (c :: shown, column + 1)) ([], column)
    (shown.reverse, column)

/-- Write what a descriptor yields in an encoding; at most `fuel` reads. -/
def encodeFrom (e : Encoding) (width fd : Nat) : (fuel : Nat) → (left : List Char) → (column : Nat) →
    Task (Option OsError)
  | 0, _, _ => return none
  | fuel + 1, left, column => do
    match ← Task.readChunk fd 30720 with
    | .error fault => return some fault
    | .ok chunk =>
      let cs := left ++ chunk.toList
      let (found, left) := groups e.groupBytes cs.length cs
      let found := if chunk = "" && !left.isEmpty then found ++ [left] else found
      let (shown, column) := wrap width column (found.flatMap e.encodeGroup)
      Task.print (.ofList shown)
      if chunk = "" then
        if column > 0 then Task.print "\n"
        return none
      if ← Task.isRefused then return none
      encodeFrom e width fd fuel left column

/-- What became of a text that should be decoded. -/
inductive Decoded where
  | done
  | malformed
  | unreadable (e : OsError)
  deriving DecidableEq, Repr, Inhabited

/-- Decode groups up to the first that is not well formed: the bytes, and whether all were well formed. -/
def decodeGroups (e : Encoding) : List (List Char) → List Char × Bool
  | [] => ([], true)
  | group :: rest =>
    match e.decodeGroup group with
    | (bytes, false) => (bytes, false)
    | (bytes, true) =>
      let (more, fine) := decodeGroups e rest
      (bytes ++ more, fine)

/-- Write the bytes that a descriptor yields in an encoding; at most `fuel` reads. -/
def decodeFrom (e : Encoding) (lenient : Bool) (fd : Nat) : (fuel : Nat) → (left : List Char) → Task Decoded
  | 0, _ => return .done
  | fuel + 1, left => do
    match ← Task.readChunk fd 4096 with
    | .error fault => return .unreadable fault
    | .ok chunk =>
      let keeps (c : Char) : Bool := c ≠ '\n' && (!lenient || c = '=' || e.alphabet.contains c)
      let cs := left ++ chunk.toList.filter keeps
      let (found, left) := groups e.groupLength cs.length cs
      let found := if chunk = "" && !left.isEmpty then found ++ [left] else found
      let (bytes, fine) := e.decodeGroups found
      Task.print (.ofList bytes)
      if !fine then return .malformed
      if chunk = "" || (← Task.isRefused) then return .done
      decodeFrom e lenient fd fuel left

/-- Write an input in an encoding, or decode it. -/
def run (e : Encoding) (a : Arguments) : Task Nat := do
  let width? := match a.value? "w" with
    | none => some 76
    | some text => Text.readInteger? text.toList |>.bind fun n => if n < 0 then none else some n.toNat
  match width?, a.operands with
  | none, _ => failWith 1 ("invalid wrap size: " ++ inQuotes ((a.value? "w").getD ""))
  | _, _ :: extra :: _ => misuse ("extra operand " ++ inQuotes extra) 1
  | some width, operands =>
    let operand := operands.headD "-"
    let fd? ← if operand = "-" then pure (.ok 0) else Task.openPath operand .read
    match fd? with
    | .error fault => failWith 1 (forShell operand ++ ": " ++ fault.wording)
    | .ok fd =>
      let outcome ← if a.has "d" then e.decodeFrom (a.has "i") fd Task.patience []
        else do
          let fault ← e.encodeFrom width fd Task.patience [] 0
          pure (fault.elim Decoded.done Decoded.unreadable)
      match outcome with
      | .done => return 0
      | .malformed => failWith 1 "invalid input"
      | .unreadable fault => failWith 1 ("read error: " ++ fault.wording)

/-- The options for reading and writing an encoding. -/
def options : OptionTable :=
  { flags := "di", valued := "w", names := [("decode", "d"), ("ignore-garbage", "i"), ("wrap", "w")] }

end Encoding

/-- Write an input with few characters, or decode it: `base64 [-di] [-w columns] [file]`. -/
def base (name : String) (args : List String) : Task Nat :=
  withOptions Encoding.options args fun a => ((Encoding.all.lookup name).getD default).run a

/-- Write an input in an encoding that an option names, or decode it. -/
def basenc (args : List String) : Task Nat :=
  let names := Encoding.all.map Prod.fst
  withOptions { Encoding.options with words := names } args fun a =>
    match a.last? names with
    | none => misuse "missing encoding type" 1
    | some (name, _) => ((Encoding.all.lookup name).getD default).run a

end CommandSpec.Utility
