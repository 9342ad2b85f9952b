import CommandSpec.Number
import CommandSpec.Utility.Rules.Feed
import CommandSpec.Utility.Rules.Layout
import CommandSpec.Utility.Rules.Table

/-!
# The state of a run

While a program runs it has variables, tables, a record with fields, and inputs and outputs. A record is
cut into fields when one of them is asked for, and put together again when the record is asked for after
a field was changed. A parameter is a value and a table at once until the program uses it as one of
them, and so a name that was never used can be handed to a function that fills it.
-/

namespace CommandSpec.Utility.Rules

/-! ## Random numbers

Random numbers are made from earlier ones: each is the sum of those 31 and 3 places before it. A seed
determines all of them. -/

/-- The last 31 numbers, the earliest first. -/
structure Chance where
  recent : Array Nat
  deriving Inhabited

namespace Chance

/-- How many numbers are remembered. -/
def memory : Nat := 31

/-- The next number, and what is remembered then. -/
def step (c : Chance) : Nat × Chance :=
  let sum := ((c.recent[0]?.getD 0) + (c.recent[memory - 3]?.getD 0)) % 2 ^ 32
  (sum, ⟨(c.recent.extract 1 memory).push sum⟩)

/-- The number after another one when a seed is spread out. -/
def spread (n : Nat) : Nat :=
  16807 * n % (2 ^ 31 - 1)

/-- How many numbers are passed over at first. -/
def warmUp : Nat := 310

/-- The numbers that a seed determines. -/
def ofSeed (seed : Nat) : Chance :=
  let first := if seed % 2 ^ 32 = 0 then 1 else seed % 2 ^ 32
  let filled := (List.range (memory - 1)).foldl
    (fun (ns : Array Nat) _ => ns.push (spread (ns.back?.getD 0))) #[first]
  let start : Chance := ⟨filled.extract 3 memory ++ filled.extract 0 3⟩
  (List.range warmUp).foldl (fun c _ => c.step.2) start

/-- The greatest random number. -/
def limit : Nat := 2 ^ 31 - 1

/-- A random number from zero to the limit. -/
def next (c : Chance) : Nat × Chance :=
  let (n, c) := c.step
  (n / 2, c)

end Chance

open CommandSpec.Regex (Pattern)

/-! ## Records -/

/-- A record with its fields. -/
structure Record where
  whole : Value := .input ""
  /-- Whether a field was changed since the record was put together. -/
  isStale : Bool := false
  /-- What cuts the record into fields, if that was not done yet. -/
  uncut : Option Separator := none
  fields : Array Value := #[]
  deriving Inhabited

namespace Record

/-- The record with its fields. -/
def cut (r : Record) : Record :=
  match r.uncut with
  | none => r
  | some s =>
    let text := (r.whole.toText "").toList
    { r with uncut := none, fields := ((s.cut text).map fun cs => Value.input (.ofList cs)).toArray }

/-- The record put together again, with a text between its fields. -/
def joined (between format : String) (r : Record) : Record :=
  if r.isStale then
    { r with whole := .input (between.intercalate (r.fields.toList.map (·.toText format))), isStale := false }
  else r

/-- The record with so many fields. -/
def resize (n : Nat) (r : Record) : Record :=
  let r := r.cut
  { r with
    fields := r.fields.extract 0 n ++ Array.replicate (n - r.fields.size) (.text "")
    isStale := true }

/-- The record with another value in a field, counted from one. -/
def put (n : Nat) (v : Value) (r : Record) : Record :=
  let r := r.cut
  let r := if r.fields.size < n then r.resize n else r
  { r with fields := r.fields.setIfInBounds (n - 1) v, isStale := true }

end Record

/-! ## Outputs -/

/-- An output besides the standard one. -/
structure Sink where
  name : String
  fd : Nat
  /-- The command that reads it, if it is one. -/
  pid : Option Nat := none
  /-- What is still to be written, the latest first. -/
  unwritten : List String := []
  deriving Inhabited

/-- An input besides the main one. -/
structure Source where
  name : String
  feed : Feed
  /-- The command that writes it, if it is one. -/
  pid : Option Nat := none
  deriving Inhabited

/-- The main input. -/
inductive MainInput where
  | unopened
  | opened (feed : Feed) (isOwn : Bool)
  | over
  deriving Inhabited

/-! ## Everything -/

/-- What a parameter holds. -/
structure Slot where
  value : Value := .unset
  table : Option Nat := none
  deriving Inhabited

/-- The state of a run. -/
structure Machine where
  commons : Std.HashMap String Value := {}
  /-- The tables that common names stand for, by their places. -/
  tables : Std.HashMap String Nat := {}
  heap : Array Table := #[]
  /-- What the parameters of the function that runs hold. -/
  frame : Array Slot := #[]
  record : Record := {}
  fieldSeparator : Separator := .blanks
  recordRule : RecordRule := .char '\n'
  /-- Patterns that were made from texts. -/
  patterns : Std.HashMap String Pattern := {}
  chance : Chance := .ofSeed 1
  seed : Value := .number 0
  main : MainInput := .unopened
  /-- The number of the next operand. -/
  operand : Nat := 1
  sources : List Source := []
  /-- The outputs, the one that was used last first. -/
  sinks : List Sink := []
  /-- What is still to be written to the standard output, the latest first, and how much that is. -/
  unwritten : List String := []
  unwrittenSize : Nat := 0
  /-- Which ranges of records are open, by the numbers of their rules. -/
  ranges : List Nat := []
  status : Nat := 0
  deriving Inhabited

/-- The variables at the start of a run. -/
def initialVariables : List (String × Value) :=
  [("FS", .text " "), ("OFS", .text " "), ("RS", .text "\n"), ("ORS", .text "\n"), ("SUBSEP", .text "\x1c"),
    ("CONVFMT", .text "%.6g"), ("OFMT", .text "%.6g"), ("NR", .number 0), ("FNR", .number 0),
    ("FILENAME", .text ""), ("RSTART", .number 0), ("RLENGTH", .number (-1))]

/-- What makes a run leave the place where it is. -/
inductive Signal where
  | next
  | nextFile
  | stop
  | again
  | leave (v : Value)
  | exit
  /-- Something is so wrong that nothing more is done. -/
  | abort
  deriving Inhabited

/-- A part of a run. -/
abbrev Eval := ExceptT Signal (StateT Machine Task)

namespace Eval

/-- Do something that belongs to a process. -/
def task {α : Type} (x : Task α) : Eval α :=
  (liftM (m := StateT Machine Task) (liftM x : StateT Machine Task α) : ExceptT Signal (StateT Machine Task) α)

/-- Let others go on. -/
def breathe : Eval Unit :=
  task (Task.pause 1)

/-- The text of a common variable. -/
def setting (name : String) : Eval String := do
  let m ← get
  match m.commons.get? name with
  | none => return ""
  | some (.text s) => return s
  | some v =>
    let format := (m.commons.get? "CONVFMT").getD .unset
    return v.toText (format.toText "%.6g")

/-- How numbers become texts. -/
def numberFormat : Eval String :=
  setting "CONVFMT"

/-- The text of a value. -/
def textOf (v : Value) : Eval String := do
  match v with
  | .text s => return s
  | .input s => return s
  | v => return v.toText (← numberFormat)

/-- End the run with a complaint. -/
def fail {α : Type} (complaint : String) (status : Nat := 2) : Eval α := do
  task (Task.complain complaint)
  modify fun m => { m with status }
  throw .abort

/-- End the run with a complaint about what the program does. -/
def fault {α : Type} (complaint : String) : Eval α := do
  let name ← setting "FILENAME"
  let fileCount ← setting "FNR"
  let count ← setting "NR"
  fail ("run time error: " ++ complaint ++ "\n\tFILENAME=\"" ++ name ++ "\" FNR=" ++ fileCount ++ " NR=" ++ count)

/-- The pattern that a text is. -/
def patternOf (s : String) : Eval Pattern := do
  match (← get).patterns.get? s with
  | some p => return p
  | none =>
    match readPattern s.toList with
    | .error complaint => fault complaint
    | .ok p =>
      modify fun m => { m with patterns := m.patterns.insert s p }
      return p

/-- The separator that a text is. -/
def separatorOf (s : String) : Eval Separator := do
  match Separator.ofText s with
  | .error complaint => fault complaint
  | .ok s => return s

/-! ## Records and variables -/

/-- Put another text in place of the record. -/
def setRecord (v : Value) : Eval Unit := do
  let whole := Value.input (← textOf v)
  modify fun m => { m with record := { whole, uncut := some m.fieldSeparator } }

/-- The record. -/
def wholeRecord : Eval Value := do
  if (← get).record.isStale then
    let between ← setting "OFS"
    let format ← numberFormat
    modify fun m => { m with record := m.record.joined between format }
  return (← get).record.whole

/-- The value of a field. -/
def field (n : Int) : Eval Value := do
  if n < 0 then fault ("negative field index $" ++ toString n)
  if n = 0 then wholeRecord
  else
    modify fun m => { m with record := m.record.cut }
    return ((← get).record.fields[n.toNat - 1]?).getD .unset

/-- Give a field a value. -/
def setField (n : Int) (v : Value) : Eval Unit := do
  if n < 0 then fault ("negative field index $" ++ toString n)
  if n = 0 then setRecord v
  else modify fun m => { m with record := m.record.put n.toNat v }

/-- The value of a common variable. -/
def common (name : String) : Eval Value := do
  if name = "NF" then
    modify fun m => { m with record := m.record.cut }
    return .ofNat (← get).record.fields.size
  return ((← get).commons.get? name).getD .unset

/-- Give a common variable a value. -/
def setCommon (name : String) (v : Value) : Eval Unit := do
  match name with
  | "NF" =>
    let n := toIndex v.toNumber
    if n < 0 then fault "negative value assigned to NF"
    modify fun m => { m with record := m.record.resize n.toNat }
  | "FS" =>
    modify fun m => { m with commons := m.commons.insert name v }
    let fieldSeparator ← separatorOf (← textOf v)
    modify fun m => { m with fieldSeparator }
  | "RS" =>
    modify fun m => { m with commons := m.commons.insert name v }
    let recordRule := RecordRule.ofSeparator (← separatorOf (← textOf v))
    modify fun m => { m with recordRule }
  | name => modify fun m => { m with commons := m.commons.insert name v }

/-- A new empty table, by its place. -/
def newTable : Eval Nat :=
  modifyGet fun m => (m.heap.size, { m with heap := m.heap.push {} })

/-- The table that a variable stands for, by its place. -/
def tableOf (v : Variable) : Eval Nat := do
  match v with
  | .common name =>
    match (← get).tables.get? name with
    | some i => return i
    | none =>
      let i ← newTable
      modify fun m => { m with tables := m.tables.insert name i }
      return i
  | .parameter k =>
    let slot := ((← get).frame[k]?).getD {}
    match slot.table with
    | some i => return i
    | none =>
      let i ← newTable
      modify fun m => { m with frame := m.frame.setIfInBounds k { slot with table := some i } }
      return i

/-- A table. -/
def table (i : Nat) : Eval Table := do
  return ((← get).heap[i]?).getD {}

/-- Change a table. -/
def changeTable (i : Nat) (f : Table → Table) : Eval Unit :=
  modify fun m => { m with heap := m.heap.modify i f }

end Eval

end CommandSpec.Utility.Rules
