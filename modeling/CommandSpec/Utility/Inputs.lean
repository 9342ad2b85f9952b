import CommandSpec.Text.Lines
import CommandSpec.Utility.Arguments

/-!
# Operands that name inputs

Many utilities read the files that their operands name, or standard input when there are none or
where the operand is `-`. A file that cannot be read is complained about and the others are still
taken. Lines are acted on as they come, so that a utility can end before its input does.
-/

namespace CommandSpec.Utility

/-- The content of one input. -/
def readInput (operand : String) : Task (Except OsError String) :=
  if operand = "-" then Task.readAll 0 else Task.slurp operand

/-- How a utility complains about an input that it cannot read. -/
abbrev InputComplaint := (operand : String) → OsError → String

/-- The complaint that names the input and the error. -/
def plainComplaint : InputComplaint := fun operand e =>
  forShell operand ++ ": " ++ e.wording

/-- The operands, or `-` when there are none. -/
def orStdin (operands : List String) : List String :=
  if operands.isEmpty then ["-"] else operands

/-- The character that ends a record: a newline, or a NUL with `zero`. -/
def recordEnd (zero : Bool) : Char :=
  if zero then Char.ofNat 0 else '\n'

/-- The records of a text with the characters that end them, the last one perhaps without. -/
def closedRecords (ending : Char) (text : String) : List (List Char) :=
  Text.cutAfter (· == ending) text.toList

/-- The records of a text, without the characters that end them. -/
def recordsOf (zero : Bool) (text : String) : List String :=
  if zero then (closedRecords (recordEnd true) text).map fun r => .ofList (r.filter (· ≠ recordEnd true))
  else linesOfBlock text

/-- Texts, each closed by a newline, or by a NUL with `zero`. -/
def closed (zero : Bool) (texts : List String) : String :=
  if zero then String.join (texts.map (· ++ "\x00")) else blockOfLines texts

section

variable {σ : Type}

/-- Act on the records that a descriptor yields, as many at once as were read; the last one may lack
its end. What is `opened` was read of a record whose end is still to come. The action may say that no
more is to be read, and perhaps how much of what it was given it does not use, which is then given back
if it can be. At most `fuel` reads; they stop when the output is refused. -/
def someRecords (fd : Nat) (ending : Char) (act : σ → List (List Char) → Task (σ × Option (Option Nat))) :
    (fuel : Nat) → (opened : List Char) → σ → Task (σ × Option OsError)
  | 0, _, s => return (s, none)
  | fuel + 1, opened, s => do
    match ← Task.readChunk fd 65536 with
    | .error e => return (s, some e)
    | .ok "" =>
      if opened.isEmpty then return (s, none)
      return ((← act s [opened]).1, none)
    | .ok chunk =>
      let found := closedRecords ending (.ofList (opened ++ chunk.toList))
      let isOpen (r : List Char) : Bool := r.getLast? ≠ some ending
      let opened := (found.getLast?.filter isOpen).getD []
      let whole := if opened.isEmpty then found else found.dropLast
      let (s, stop?) ← if whole.isEmpty then pure (s, none) else act s whole
      if let some unused? := stop? then
        if let some unused := unused? then Task.call (Call.seekBack fd (unused + opened.length))
        return (s, none)
      if ← Task.isRefused then return (s, none)
      someRecords fd ending act fuel opened s

/-- Act on all records that a descriptor yields. -/
def eachRecord (fd : Nat) (ending : Char) (act : σ → List (List Char) → Task σ) (fuel : Nat)
    (opened : List Char) (s : σ) : Task (σ × Option OsError) :=
  someRecords fd ending (fun s records => do return (← act s records, none)) fuel opened s

/-- Go through every input, with something carried along, and tell whether all could be read. -/
def eachInput (complaint : InputComplaint) (act : (fd : Nat) → σ → Task (σ × Option OsError)) :
    List String → σ → Task (σ × Bool)
  | [], s => return (s, true)
  | operand :: rest, s => do
    let (s, fault) ←
      if operand = "-" then act 0 s
      else
        match ← Task.openPath operand .read with
        | .error e => pure (s, some e)
        | .ok fd =>
          let found ← act fd s
          Task.close fd
          pure found
    if let some e := fault then Task.complain (complaint operand e)
    if ← Task.isRefused then return (s, fault.isNone)
    let (s, ok) ← eachInput complaint act rest s
    return (s, ok && fault.isNone)

end

/-- Write what a function makes of every record of the inputs: 0 when all could be read, else 1. -/
def mapRecords (ending : Char) (f : List Char → List Char) (operands : List String) : Task Nat := do
  let write (_ : Unit) (records : List (List Char)) : Task Unit :=
    Task.print (.ofList (records.flatMap f))
  let (_, ok) ← eachInput plainComplaint (fun fd s => eachRecord fd ending write Task.patience [] s)
    (orStdin operands) ()
  return if ok then 0 else 1

end CommandSpec.Utility
