import CommandSpec.Utility.Outcome
import CommandSpec.Utility.Records

/-!
# `paste`

`paste` writes lines of several inputs side by side, with delimiters between them that are used in
turn, or all lines of one input after another in one line.
-/

namespace CommandSpec.Utility

/-- The texts that a list of delimiters stands for, some of which may be empty, unless it ends with a
lone backslash. -/
def readDelimiters : List Char → Option (List (List Char))
  | [] => some []
  | ['\\'] => none
  | '\\' :: c :: rest => do
    let others ← readDelimiters rest
    let text := match c with
      | '0' => []
      | 'b' => ['\x08']
      | 'f' => ['\x0c']
      | 'n' => ['\n']
      | 'r' => ['\r']
      | 't' => ['\t']
      | 'v' => ['\x0b']
      | c => [c]
    return text :: others
  | c :: rest => do return [c] :: (← readDelimiters rest)

/-- Texts with delimiters between them, used in turn. -/
def joinInTurn (delimiters : List (List Char)) (texts : List (List Char)) : List Char :=
  let delimiters := delimiters.toArray
  let delimited := texts.zipIdx.map fun (text, k) =>
    if k = 0 then text else (delimiters[(k - 1) % delimiters.size]?).getD [] ++ text
  delimited.flatten

/-- The readers of inputs, and whether all of them could be read. -/
structure Columns where
  readers : Array RecordReader := #[]
  ok : Bool := true
  deriving Inhabited

/-- The next records of columns, each with its name and the number of its reader. -/
def Columns.takeRound (c : Columns) : List (String × Nat) → Task (Columns × List (Option (List Char)))
  | [] => return (c, [])
  | (name, k) :: rest => do
    match c.readers[k]? with
    | none => return (c, [])
    | some reader =>
      let (record?, reader, fault) ← reader.next
      if let some e := fault then Task.complain (plainComplaint name e)
      let (c, others) ← takeRound ⟨c.readers.setIfInBounds k reader, c.ok && fault.isNone⟩ rest
      let text? := record?.map fun r => if r.getLast? = some reader.ending then r.dropLast else r
      return (c, text? :: others)

/-- Write records of columns side by side until all columns are at their ends, at most `fuel` lines:
whether all could be read. -/
def pasteRounds (delimiters : List (List Char)) (ending : Char) (columns : List (String × Nat)) :
    (fuel : Nat) → Columns → Task Bool
  | 0, c => return c.ok
  | fuel + 1, c => do
    let (c, texts) ← c.takeRound columns
    if texts.all Option.isNone then return c.ok
    Task.print (.ofList (joinInTurn delimiters (texts.map (·.getD [])) ++ [ending]))
    if ← Task.isRefused then return c.ok
    pasteRounds delimiters ending columns fuel c

/-- The readers of inputs, and which of them each input has: standard input has one reader however
often it is named. -/
def openColumns (ending : Char) :
    List String → Array RecordReader →
      Task (Except (String × OsError) (Array RecordReader × List (String × Nat)))
  | [], readers => return .ok (readers, [])
  | operand :: rest, readers => do
    let found? := if operand = "-" then readers.findIdx? (·.fd = 0) else none
    let opened : Except OsError (Array RecordReader × Nat) ← match found? with
      | some k => pure (.ok (readers, k))
      | none => do
        let fd ← if operand = "-" then pure (.ok 0) else Task.openPath operand .read
        pure (fd.map fun fd => (readers.push { fd, ending }, readers.size))
    match opened with
    | .error e => return .error (operand, e)
    | .ok (readers, k) =>
      return (← openColumns ending rest readers).map fun (readers, columns) => (readers, (operand, k) :: columns)

/-- Write the records of each input in one line: whether all inputs could be read. -/
def pasteSerially (delimiters : List (List Char)) (ending : Char) (operands : List String) : Task Bool := do
  let act (fd : Nat) (_ : Unit) : Task (Unit × Option OsError) := do
    let take (isFirst : List (List Char)) (records : List (List Char)) : Task (List (List Char)) := do
      return isFirst ++ records.map fun r => if r.getLast? = some ending then r.dropLast else r
    let (texts, fault) ← eachRecord fd ending take Task.patience [] []
    if fault.isNone then Task.print (.ofList (joinInTurn delimiters texts ++ [ending]))
    return ((), fault)
  return (← eachInput plainComplaint act operands ()).2

/-- Write lines side by side: `paste [-s] [-z] [-d delimiters] [file…]`. -/
def paste (args : List String) : Task Nat :=
  let table : OptionTable :=
    { flags := "sz", valued := "d", names := [("delimiters", "d"), ("serial", "s"), ("zero-terminated", "z")] }
  withOptions table args fun a => do
    let list := (a.value? "d").getD "\t"
    match readDelimiters (if list = "" then "\\0" else list).toList with
    | none => failWith 1 ("delimiter list ends with an unescaped backslash: " ++ list)
    | some delimiters =>
      let ending := recordEnd (a.has "z")
      let operands := orStdin a.operands
      if a.has "s" then return if ← pasteSerially delimiters ending operands then 0 else 1
      match ← openColumns ending operands #[] with
      | .error (operand, e) => failWith 1 (plainComplaint operand e)
      | .ok (readers, columns) =>
        return if ← pasteRounds delimiters ending columns Task.patience { readers } then 0 else 1

end CommandSpec.Utility
