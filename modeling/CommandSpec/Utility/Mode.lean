import CommandSpec.Text.Integer

/-!
# Permissions

A mode is a number of twelve bits. Its last three octal digits tell what the owner, the group and all
others may do: 4 for reading, 2 for writing and 1 for running. The digit before them has 4 for a
program that runs as its owner, 2 for one that runs as its group, and 1 for a directory whose entries
only their owners remove.

A change of a mode is given by a number or by clauses such as `u+x` or `go=r`. A directory keeps the
bits for owner and group unless a clause names them or the number has more than four digits.
-/

namespace CommandSpec.Utility

/-- All bits of a mode. -/
def allModeBits : Nat := 0o7777

/-- The bits of a mode without some of them. -/
def withoutBits (mode bits : Nat) : Nat :=
  mode - (mode &&& bits)

/-- What a clause does with the bits it names. -/
inductive ModeChange where
  | add
  | remove
  | assign
  deriving DecidableEq, Repr, Inhabited

/-- Where the bits of a clause come from. -/
inductive ModeSource where
  /-- They are given. -/
  | given
  /-- They are given, and running comes in where somebody may run it or it is a directory. -/
  | runsIfSome
  /-- They are those of a class, given as a mask, in the mode so far. -/
  | copied
  deriving DecidableEq, Repr, Inhabited

/-- One change of a mode. -/
structure ModeClause where
  change : ModeChange
  source : ModeSource := .given
  /-- The bits of the classes that are named; 0 without any. -/
  classes : Nat := 0
  /-- The bits, or the class that they are copied from. -/
  bits : Nat := 0
  /-- The bits that are named, which a directory does not keep. -/
  named : Nat := 0
  deriving DecidableEq, Repr, Inhabited

namespace ModeClause

/-- The bits of one permission for all classes when some class has it. -/
def spread (bits : Nat) : Nat :=
  let all (mask : Nat) : Nat := if bits &&& mask ≠ 0 then mask else 0
  all 0o444 ||| all 0o222 ||| all 0o111

/-- The mode after a change; without classes it leaves the bits of a mask alone. -/
def apply (mask : Nat) (isDirectory : Bool) (mode : Nat) (c : ModeClause) : Nat :=
  let kept := if isDirectory then withoutBits 0o6000 c.named else 0
  let bits := match c.source with
    | .given => c.bits
    | .runsIfSome =>
      if isDirectory || mode &&& 0o111 ≠ 0 then c.bits ||| 0o111 else c.bits
    | .copied => spread (c.bits &&& mode)
  let scope := if c.classes = 0 then withoutBits allModeBits mask else c.classes
  let bits := withoutBits (bits &&& scope) kept
  match c.change with
  | .add => mode ||| bits
  | .remove => withoutBits mode bits
  | .assign =>
    let cleared := if c.classes = 0 then allModeBits else c.classes
    withoutBits mode (withoutBits cleared kept) ||| bits

/-- The bits of the class that a letter names. -/
def classOf? : Char → Option Nat
  | 'u' => some 0o4700
  | 'g' => some 0o2070
  | 'o' => some 0o1007
  | 'a' => some allModeBits
  | _ => none

/-- The change that a sign stands for. -/
def changeOf? : Char → Option ModeChange
  | '+' => some .add
  | '-' => some .remove
  | '=' => some .assign
  | _ => none

/-- The bits that a letter allows to everybody. -/
def bitsOf? : Char → Option Nat
  | 'r' => some 0o444
  | 'w' => some 0o222
  | 'x' => some 0o111
  | 'X' => some 0
  | 's' => some 0o6000
  | 't' => some 0o1000
  | _ => none

/-- The clause that a sign for some classes makes with the text after it, and the rest of the text. -/
def readClause? (classes : Nat) (change : ModeChange) (cs : List Char) :
    Option (ModeClause × List Char) :=
  let copy (bits : Nat) (rest : List Char) : Option (ModeClause × List Char) :=
    some ({ change, source := .copied, classes, bits }, rest)
  match cs with
  | 'u' :: rest => copy 0o700 rest
  | 'g' :: rest => copy 0o070 rest
  | 'o' :: rest => copy 0o007 rest
  | cs =>
    let digits := cs.takeWhile (Text.isDigitIn 8)
    if digits.isEmpty then
      let letters := cs.takeWhile fun c => (bitsOf? c).isSome
      let bits := (letters.filterMap bitsOf?).foldl Nat.lor 0
      let named := if classes = 0 then bits else classes &&& bits
      let source := if letters.contains 'X' then ModeSource.runsIfSome else .given
      some ({ change, source, classes, bits, named }, cs.drop letters.length)
    else
      let bits := Text.numberIn 8 digits
      let rest := cs.drop digits.length
      if classes ≠ 0 || bits > allModeBits || !rest.isEmpty then none
      else some ({ change, classes := allModeBits, bits, named := allModeBits }, rest)

/-- The clauses for some classes, such as `+x` or `-w+x`; at most `fuel` of them. -/
def readClauses? (classes : Nat) : (fuel : Nat) → List Char → Option (List ModeClause)
  | 0, _ => none
  | _ + 1, [] => some []
  | fuel + 1, sign :: cs => do
    let (clause, rest) ← readClause? classes (← changeOf? sign) cs
    return clause :: (← readClauses? classes fuel rest)

/-- Read the clauses of a symbolic mode. -/
def readSymbolic? (s : String) : Option (List ModeClause) := do
  let clauses ← (s.splitOn ",").mapM fun part => do
    let cs := part.toList
    let named := cs.takeWhile fun c => (classOf? c).isSome
    let changes := cs.drop named.length
    guard !changes.isEmpty
    readClauses? ((named.filterMap classOf?).foldl Nat.lor 0) (cs.length + 1) changes
  return clauses.flatten

/-- Read a mode in octal digits, or the clauses of a symbolic one. -/
def read? (s : String) : Option (List ModeClause) :=
  match Text.readNumberIn? 8 s.toList with
  | none => readSymbolic? s
  | some bits =>
    let named := if s.length < 5 then (bits &&& 0o6000) ||| 0o1777 else allModeBits
    if bits ≤ allModeBits then some [{ change := .assign, classes := allModeBits, bits, named }]
    else none

/-- The mode after several changes. -/
def applyAll (mask : Nat) (clauses : List ModeClause) (isDirectory : Bool) (mode : Nat) : Nat :=
  clauses.foldl (apply mask isDirectory) mode

end ModeClause

/-- A mode as letters, such as `rwxr-xr-x`. -/
def showMode (mode : Nat) : String :=
  let digit (shift : Nat) (special : Bool) (letter : Char) : List Char :=
    let has (bit : Nat) : Bool := mode.testBit (shift + bit)
    let run := if special then (if has 0 then letter else letter.toUpper) else if has 0 then 'x' else '-'
    [if has 2 then 'r' else '-', if has 1 then 'w' else '-', run]
  .ofList (digit 6 (mode.testBit 11) 's' ++ digit 3 (mode.testBit 10) 's' ++ digit 0 (mode.testBit 9) 't')

end CommandSpec.Utility
