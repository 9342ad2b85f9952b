import CommandSpec.Text.Integer
import CommandSpec.Utility.Inputs
import CommandSpec.Utility.Outcome
import CommandSpec.Utility.TemporaryFile

/-!
# `shuf`

Lines, operands or numbers are written in an order that cannot be foretold.
-/

namespace CommandSpec.Utility

namespace Shuffling

/-- A number below a bound that cannot be foretold. -/
def someBelow (bound : Nat) : Task Nat := do
  return ((← someBytes 16).foldl (fun n b => 256 * n + b.toNat) 0) % max 1 bound

/-- The first elements of an array in an order that cannot be foretold: from a place on, at most `count`. -/
def draw {α : Type} : (count : Nat) → (place : Nat) → Array α → Task (List α)
  | 0, _, _ => return []
  | count + 1, place, xs => do
    if place ≥ xs.size then return []
    let other := place + (← someBelow (xs.size - place))
    let xs := xs.swapIfInBounds place other
    let rest ← draw count (place + 1) xs
    return (xs[place]?).toList ++ rest

/-- Write elements of an array again and again, at most `count` times. -/
def writeRepeatedly (ending : String) (xs : Array String) : (count : Nat) → Task Unit
  | 0 => return ()
  | count + 1 => do
    Task.print ((xs[← someBelow xs.size]?).getD "" ++ ending)
    if !(← Task.isRefused) then writeRepeatedly ending xs count

/-- Read a range of numbers. -/
def readRange? (text : String) : Option (List String) := do
  match text.splitOn "-" with
  | [low, high] =>
    let a ← Text.readNumber? low
    let b ← Text.readNumber? high
    guard (a ≤ b + 1)
    return (List.range (b + 1 - a)).map fun k => toString (a + k)
  | _ => none

/-- What is written in place of the operands: the words, or the lines of an input. -/
def sourceOf (a : Arguments) : Task (Except String (Array String)) := do
  if let some range := a.value? "i" then
    return (readRange? range).elim (.error ("invalid input range: " ++ inQuotes range)) fun xs => .ok xs.toArray
  if a.has "e" then return .ok a.operands.toArray
  let operand := a.operands.headD "-"
  match ← readInput operand with
  | .ok text => return .ok (recordsOf (a.has "z") text).toArray
  | .error e =>
    return .error ((if e = .isDirectory then "read error" else forShell operand) ++ ": " ++ e.wording)

end Shuffling

/-- Write lines in an order that cannot be foretold:
`shuf [-rz] [-n count] [-o file] [-e word… | -i low-high | file]`. -/
def shuf (args : List String) : Task Nat :=
  let table : OptionTable :=
    { flags := "erz", valued := "ino", valuedWords := ["random-source"]
      names := [("echo", "e"), ("input-range", "i"), ("head-count", "n"), ("output", "o"), ("repeat", "r"),
        ("zero-terminated", "z")] }
  withOptions table args fun a => do
    let values (option : String) : List String := (a.options.filter (·.1 = option)).map Prod.snd
    if (values "i").length > 1 then return (← failWith 1 "multiple -i options specified")
    if let some range := a.value? "i" then
      if (Shuffling.readRange? range).isNone then
        return (← failWith 1 ("invalid input range: " ++ inQuotes range))
    if let some bad := (values "n").find? fun n => (Text.readNumber? n).isNone then
      return (← failWith 1 ("invalid line count: " ++ inQuotes bad))
    if (values "o").any (some · ≠ (values "o").head?) then
      return (← failWith 1 "multiple output files specified")
    if a.has "e" && a.has "i" then return (← misuse "cannot combine -e and -i options" 1)
    if !a.has "e" then
      if let extra :: _ := a.operands.drop (if a.has "i" then 0 else 1) then
        return (← misuse ("extra operand " ++ inQuotes extra) 1)
    let limit? := ((values "n").filterMap Text.readNumber?).min?
    if limit? = some 0 && !a.has "o" then return 0
    match ← Shuffling.sourceOf a with
    | .error complaint => failWith 1 complaint
    | .ok xs =>
      let ending := if a.has "z" then "\x00" else "\n"
      if let some path := a.value? "o" then
        match ← Task.openPath path .write with
        | .error e => return (← failWith 1 (forShell path ++ ": " ++ e.wording))
        | .ok fd =>
          let table := (← Task.call Call.self).descriptors
          Task.call (Call.setDescriptors (Call.redirectTo table 1 ((table.lookup fd).getD 0)))
      if a.has "r" then
        if limit? = some 0 then return 0
        if xs.isEmpty then return (← failWith 1 "no lines to repeat")
        Shuffling.writeRepeatedly ending xs (limit?.getD Task.patience)
        return 0
      let drawn ← Shuffling.draw (min xs.size (limit?.getD xs.size)) 0 xs
      Task.print (String.join (drawn.map (· ++ ending)))
      return 0

end CommandSpec.Utility
