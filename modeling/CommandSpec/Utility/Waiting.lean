import CommandSpec.Utility.Fraction
import CommandSpec.Utility.Outcome

/-!
# `sleep`, `yes` and `sync`

`sleep` waits for a time span, `yes` writes one line again and again, and `sync` waits for the disk.
-/

namespace CommandSpec.Utility

/-- The microseconds in a unit of time. -/
def unitOf? : List Char → Option Nat
  | [] => some 1000000
  | ['s'] => some 1000000
  | ['m'] => some 60000000
  | ['h'] => some 3600000000
  | ['d'] => some 86400000000
  | _ => none

/-- The microseconds that an operand such as `0.5`, `2m` or `1e1` stands for, rounded up. -/
def readSpan? (s : String) : Option Nat := do
  let cs := s.toList.dropWhile fun c => c = ' ' || ('\t' ≤ c && c ≤ '\r')
  let cs := if cs.head? = some '+' then cs.drop 1 else cs
  match ← readNumeral? cs with
  | (.infinite, rest) =>
    let _ ← unitOf? rest
    return 2 ^ 60
  | (.quotient q, rest) =>
    let unit ← unitOf? rest
    return (q.numerator * unit + q.denominator - 1) / q.denominator
  | (.undefined, _) => none

/-- Wait for the sum of time spans: `sleep span…`. -/
def sleep (args : List String) : Task Nat :=
  withOptions {} args fun a => do
    if a.operands.isEmpty then return (← misuse "missing operand" 1)
    for operand in a.operands do
      if (readSpan? operand).isNone then
        Task.complain ("invalid time interval " ++ inQuotes operand)
    if a.operands.any fun o => (readSpan? o).isNone then
      Task.remark ("Try '" ++ (← read).speaker ++ " --help' for more information.")
      return 1
    Task.sleep (sumOf (a.operands.filterMap readSpan?))
    return 0

/-- Write bytes again and again until they are refused; at most `fuel` times. -/
def repeatBytes (bytes : ByteArray) : (fuel : Nat) → Task (Option OsError)
  | 0 => return none
  | fuel + 1 => do
    match ← Task.writeBytes 1 Task.patience bytes with
    | .ok () => repeatBytes bytes fuel
    | .error e => return some e

/-- Write a line again and again until nobody takes it: `yes [word…]`. -/
def yes (args : List String) : Task Nat :=
  withOptions {} args fun a => do
    let line := (if a.operands.isEmpty then "y" else " ".intercalate a.operands) ++ "\n"
    let bytes := Octets.pack (String.join (List.replicate (8192 / line.length + 1) line))
    let refusal ← repeatBytes bytes Task.patience
    if let some e := refusal then Task.complain ("standard output: " ++ e.wording)
    return 1

/-- Wait until what was written is kept for good, which it always is: `sync [-df] [file…]`. -/
def sync (args : List String) : Task Nat :=
  let table : OptionTable := { flags := "df", names := [("data", "d"), ("file-system", "f")] }
  withOptions table args fun a => do
    if a.has "d" && a.has "f" then
      Task.complain "cannot specify both --data and --file-system"
      return 1
    if a.has "d" && a.operands.isEmpty then
      Task.complain "--data needs at least one argument"
      return 1
    forOperands a.operands fun path => do
      match ← look path with
      | .ok _ => return true
      | .error e => refuse ("error opening " ++ shellQuoted path ++ ": " ++ e.wording)

end CommandSpec.Utility
