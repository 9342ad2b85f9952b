/-!
# Lossy UTF-8 decoding

Bytes are decoded by a machine that takes one byte at a time. A byte that cannot follow those read
so far ends the character early: they, a *maximal invalid subpart*, become one replacement
character, and the byte is read again as the first of a character.
-/

namespace CommandSpec.Utf8

def replacement : Char := Char.ofNat 0xFFFD

inductive State where
  | start
  /-- Inside a character of value `value` so far: `owed + 1` bytes are to come, and the next one
  lies between `low` and `high`. -/
  | inside (owed : Nat) (low high : Nat) (value : Nat)
  deriving DecidableEq, Repr

/-- A byte read between characters: what it decides at once, and the state after it. -/
def first (b : Nat) : List Char × State :=
  if b ≤ 0x7F then ([Char.ofNat b], .start)
  else if 0xC2 ≤ b ∧ b ≤ 0xDF then ([], .inside 0 0x80 0xBF (b - 0xC0))
  else if b = 0xE0 then ([], .inside 1 0xA0 0xBF 0)
  else if b = 0xED then ([], .inside 1 0x80 0x9F 0xD)
  else if 0xE1 ≤ b ∧ b ≤ 0xEF then ([], .inside 1 0x80 0xBF (b - 0xE0))
  else if b = 0xF0 then ([], .inside 2 0x90 0xBF 0)
  else if 0xF1 ≤ b ∧ b ≤ 0xF3 then ([], .inside 2 0x80 0xBF (b - 0xF0))
  else if b = 0xF4 then ([], .inside 2 0x80 0x8F 4)
  else ([replacement], .start)

/-- One byte: the characters it completes, and the state after it. -/
def step : State → Nat → List Char × State
  | .start, b => first b
  | .inside owed low high value, b =>
    if low ≤ b ∧ b ≤ high then
      let value := value * 64 + (b - 0x80)
      match owed with
      | 0 => ([Char.ofNat value], .start)
      | owed + 1 => ([], .inside owed 0x80 0xBF value)
    else
      let (cs, state) := first b
      (replacement :: cs, state)

/-- What the end of the text makes of a state: an unfinished character is replaced. -/
def finish : State → List Char
  | .start => []
  | .inside .. => [replacement]

def run : State → List UInt8 → List Char
  | state, [] => finish state
  | state, b :: bs => (step state b.toNat).1 ++ run (step state b.toNat).2 bs

def decode (bytes : List UInt8) : List Char :=
  run .start bytes

/-! ## Characters among bytes

Where bytes that are no character have to be kept, a text is cut into parts. -/

inductive Part where
  | character (c : Char)
  | stray (byte : Char)
  deriving DecidableEq, Repr, Inhabited

/-- How many bytes the character at the head of bytes takes, if there is one. -/
def lengthAt? (bytes : List Char) : Option (Char × Nat) :=
  let rec go (state : State) (n : Nat) : List Char → Option (Char × Nat)
    | [] => none
    | b :: rest =>
      match step state b.toNat with
      | ([c], .start) => if c = replacement && n = 0 then none else some (c, n + 1)
      | ([], state) => go state (n + 1) rest
      | _ => none
  go .start 0 bytes

/-- The parts of a text of bytes; the first `skip` bytes were taken by a character. -/
def partsFrom : (skip : Nat) → List Char → List Part
  | _, [] => []
  | skip + 1, _ :: bytes => partsFrom skip bytes
  | 0, b :: bytes =>
    match lengthAt? (b :: bytes) with
    | some (c, n) => .character c :: partsFrom (n - 1) bytes
    | none => .stray b :: partsFrom 0 bytes

def parts (bytes : List Char) : List Part :=
  partsFrom 0 bytes

def encode (cs : List Char) : List UInt8 :=
  cs.flatMap String.utf8EncodeChar

end CommandSpec.Utf8
