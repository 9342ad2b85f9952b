import CommandSpec.Utility.Inputs

/-!
# Records one by one

A reader takes records from a descriptor one at a time. It reads more than it needs at once, so it can
tell whether the record that was taken last is the last one; what it has not used can be given back if
the descriptor is that of a file.
-/

namespace CommandSpec.Utility

/-- A descriptor that records are taken from. -/
structure RecordReader where
  fd : Nat
  /-- The character that ends a record. -/
  ending : Char := '\n'
  /-- Records that were read but not taken, with their ends. -/
  ready : List (List Char) := []
  /-- The start of a record whose end was not read. -/
  opened : List Char := []
  /-- Whether the end of the input was read. -/
  ended : Bool := false
  deriving Inhabited

namespace RecordReader

/-- How much is read at once. -/
def chunkSize : Nat := 4096

/-- Read until a whole record is ready, or to the end; at most `fuel` times. -/
def fill : (fuel : Nat) → RecordReader → Task (RecordReader × Option OsError)
  | 0, r => return (r, none)
  | fuel + 1, r => do
    if r.ended || !r.ready.isEmpty then return (r, none)
    match ← Task.readChunk r.fd chunkSize with
    | .error e => return ({ r with ended := true }, some e)
    | .ok "" => return ({ r with ended := true }, none)
    | .ok chunk =>
      let found := closedRecords r.ending (.ofList (r.opened ++ chunk.toList))
      let isOpen (record : List Char) : Bool := record.getLast? ≠ some r.ending
      let opened := (found.getLast?.filter isOpen).getD []
      let ready := if opened.isEmpty then found else found.dropLast
      fill fuel { r with ready, opened }

/-- Whether nothing is left, as far as was read. -/
def isOver (r : RecordReader) : Bool :=
  r.ready.isEmpty && r.opened.isEmpty

/-- Take the next record that was read. -/
def take? (r : RecordReader) : Option (List Char × RecordReader) :=
  match r.ready with
  | record :: ready => some (record, { r with ready })
  | [] => if r.opened.isEmpty then none else some (r.opened, { r with opened := [] })

/-- The next record with its end, if there is one. -/
def next (r : RecordReader) : Task (Option (List Char) × RecordReader × Option OsError) := do
  let (r, fault) ← r.fill Task.patience
  match r.take? with
  | some (record, r) => return (some record, r, fault)
  | none => return (none, r, fault)

/-- Give back what was read but not taken. -/
def giveBack (r : RecordReader) : Task Unit :=
  Task.call (Call.seekBack r.fd (sumOf (r.ready.map List.length) + r.opened.length))

end RecordReader

end CommandSpec.Utility
