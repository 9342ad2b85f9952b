import CommandSpec.Utility.Amount
import CommandSpec.Utility.Order
import CommandSpec.Utility.Outcome

/-!
# `uniq`

`uniq` joins like lines that follow each other. Fields and characters at the start of lines may be
left out of the comparison, and lines can be kept by whether they are repeated. Runs of like lines may
be set apart by empty lines.
-/

namespace CommandSpec.Utility

/-- A run of like lines. -/
structure LineRun where
  first : String
  /-- The lines after the first one, the last of them at the head. -/
  others : List String := []
  deriving Inhabited

namespace LineRun

/-- How many lines the run has. -/
def count (r : LineRun) : Nat :=
  r.others.length + 1

/-- The lines of the run in order. -/
def lines (r : LineRun) : List String :=
  r.first :: r.others.reverse

end LineRun

/-- Where empty lines set runs apart. -/
inductive RunGap where
  | none
  | before
  | after
  | between
  | around
  deriving DecidableEq, Repr, Inhabited

namespace RunGap

/-- The empty lines before a run; `isFirst` tells whether no run was written yet. -/
def lead (gap : RunGap) (isFirst : Bool) : List String :=
  match gap with
  | before => [""]
  | around => if isFirst then [""] else []
  | between => if isFirst then [] else [""]
  | _ => []

/-- The empty lines after a run. -/
def tail : RunGap → List String
  | after => [""]
  | around => [""]
  | _ => []

end RunGap

/-- What of a run of like lines is written. -/
structure RunView where
  counted : Bool := false
  /-- Whether runs of one line are left out. -/
  repeatedOnly : Bool := false
  /-- Whether the last line of longer runs is left out. -/
  uniqueOnly : Bool := false
  /-- Whether the other lines of longer runs are written too. -/
  every : Bool := false
  /-- Whether runs of one line are taken for runs like all others. -/
  grouped : Bool := false
  gap : RunGap := .none
  deriving DecidableEq, Repr, Inhabited

namespace RunView

/-- The lines that are written for a run. -/
def linesOf (v : RunView) (run : LineRun) : List String :=
  let n := run.count
  let shown := if v.grouped then run.lines
    else if n = 1 then (if v.repeatedOnly then [] else run.lines)
    else if v.every then (if v.uniqueOnly then run.lines.dropLast else run.lines)
    else if v.uniqueOnly then [] else [run.first]
  if v.counted then shown.map fun line => column 7 n ++ " " ++ line else shown

/-- Whether a run is set apart by empty lines. -/
def setsApart (v : RunView) (run : LineRun) : Bool :=
  v.grouped || run.count > 1

/-- What options ask for, or what is wrong with them. -/
def ofArguments (a : Arguments) : Except String RunView := do
  let word (option : String) : String := (a.value? option).getD ""
  let every := a.has "D" || a.has "all-repeated"
  let repeatGaps : List (List String × RunGap) :=
    [(["none"], .none), (["prepend"], .before), (["separate"], .between)]
  let groupGaps : List (List String × RunGap) :=
    [(["prepend"], .before), (["append"], .after), (["separate"], .between), (["both"], .around)]
  let repeatGap ← match (a.last? ["D", "all-repeated"]).map Prod.snd with
    | none => pure RunGap.none
    | some "" => pure RunGap.none
    | some word => readChoice "--all-repeated" word repeatGaps
  let grouped := a.has "group"
  let groupGap ← if word "group" = "" then pure RunGap.between
    else readChoice "--group" (word "group") groupGaps
  if grouped && (every || a.hasAny ["c", "d", "u"]) then
    throw "--group is mutually exclusive with -c/-d/-D/-u"
  if a.has "c" && every then
    throw "printing all duplicated lines and repeat counts is meaningless"
  return {
    counted := a.has "c", repeatedOnly := a.has "d" || every, uniqueOnly := a.has "u", every, grouped
    gap := if grouped then groupGap else repeatGap }

end RunView

/-- The run that goes on, and whether a run was set apart before it. -/
structure RunReading where
  run : Option LineRun := none
  isFirst : Bool := true
  deriving Inhabited

namespace RunReading

/-- The lines that the end of the run brings, and what comes after it. -/
def close (r : RunReading) (v : RunView) : List String × RunReading :=
  match r.run with
  | none => ([], r)
  | some run =>
    let lines := v.linesOf run
    if v.setsApart run then
      (v.gap.lead r.isFirst ++ lines ++ v.gap.tail, { isFirst := false })
    else (lines, { r with run := none })

/-- Go on with a line: the lines that are written now, and what is read so far. -/
def add (r : RunReading) (v : RunView) (alike : String → String → Bool) (line : String) :
    List String × RunReading :=
  match r.run with
  | none => ([], { r with run := some { first := line } })
  | some run =>
    if alike run.first line then
      ([], { r with run := some { run with others := line :: run.others } })
    else
      let (lines, r) := r.close v
      (lines, { r with run := some { first := line } })

end RunReading

/-- The amount that an option gives; one that is too large counts like the greatest. -/
def readCount? (value : String) : Option Nat :=
  match readAmount "" value with
  | .ok n => some n
  | .error .tooLarge => some amountLimit
  | .error .invalid => none

/-- The amounts that options with values give, or the option with its value that is no amount. -/
def badAmount? (a : Arguments) : Option (String × String) :=
  a.options.find? fun o => ["f", "s", "w"].contains o.1 && (readCount? o.2).isNone

/-- Whether an argument is an option whose value is the next argument. -/
def awaitsAmount (arg : String) : Bool :=
  match arg.toList with
  | '-' :: '-' :: name =>
    !name.contains '=' && ["skip-fields", "skip-chars", "check-chars"].any fun n => name.isPrefixOf n.toList
  | '-' :: letters => (letters.dropWhile fun c => !"fsw".toList.contains c).length = 1
  | _ => false

/-- Arguments with those that give amounts without a letter as options: `-1` for fields, and `+1` for
characters. The first argument is left alone if it is a value. -/
def expandAmounts : (isValue : Bool) → List String → List String
  | _, [] => []
  | true, arg :: rest => arg :: expandAmounts false rest
  | false, arg :: rest =>
    if arg = "--" then arg :: rest
    else
      let expanded := match arg.toList with
        | '-' :: d :: ds => if (d :: ds).all Char.isDigit then "-f" ++ .ofList (d :: ds) else arg
        | '+' :: cs => if cs ≠ [] && cs.all Char.isDigit then "-s" ++ .ofList cs else arg
        | _ => arg
      expanded :: expandAmounts (awaitsAmount arg) rest

/-- Write each run of like lines once:
`uniq [-cdDiuz] [-f fields] [-s characters] [-w characters] [--group[=gap]] [input [output]]`. -/
def uniq (args : List String) : Task Nat :=
  let table : OptionTable :=
    { flags := "cdDiuz", valued := "fsw", openWords := ["group", "all-repeated"]
      names := [("count", "c"), ("repeated", "d"), ("ignore-case", "i"), ("unique", "u"),
        ("skip-fields", "f"), ("skip-chars", "s"), ("check-chars", "w"), ("zero-terminated", "z")] }
  withOptions table (expandAmounts false args) fun a => do
    let amount (option : String) : Nat := ((a.value? option).bind readCount?).getD 0
    let (fields, chars, width) := (amount "f", amount "s", amount "w")
    let part (line : String) : List Char :=
      let rest := (dropFields none false fields line.toList).drop chars
      let rest := if a.has "w" then rest.take width else rest
      if a.has "i" then rest.map Char.toUpper else rest
    let alike (x y : String) : Bool := x = y || part x = part y
    if let some (option, value) := badAmount? a then
      let what := if option = "f" then "invalid number of fields to skip"
        else if option = "s" then "invalid number of bytes to skip"
        else "invalid number of bytes to compare"
      Task.complain (value ++ ": " ++ what)
      return 1
    match a.operands, RunView.ofArguments a with
    | _ :: _ :: extra :: _, _ => misuse ("extra operand " ++ inQuotes extra) 1
    | _, .error complaint => misuse complaint 1
    | operands, .ok view =>
      let input := operands.headD "-"
      let ending := recordEnd (a.has "z")
      let fail (complaint : String) : Task Nat := do
        Task.complain complaint
        return 1
      if input ≠ "-" then
        if let .error e ← look input then return (← fail (plainComplaint input e))
      let output ← match operands[1]?.filter (· ≠ "-") with
        | none => pure (.ok 1)
        | some path => Task.openPath path .write
      match output with
      | .error e => fail (forShell (operands[1]?.getD "") ++ ": " ++ e.wording)
      | .ok out =>
        let put (lines : List String) : Task Unit := do
          let text := closed (a.has "z") lines
          if out = 1 then Task.print text else let _ ← Task.write out text
        let act (r : RunReading) (records : List (List Char)) : Task RunReading := do
          let (shown, r) := records.foldl (fun (shown, r) record =>
            let (lines, r) := r.add view alike (.ofList (record.filter (· ≠ ending)))
            (if lines.isEmpty then shown else lines :: shown, r)) ([], r)
          put shown.reverse.flatten
          return r
        let complaint : InputComplaint := fun input e =>
          if e = .isDirectory then "error reading " ++ shellQuoted input else plainComplaint input e
        let (r, ok) ← eachInput complaint (fun fd r => eachRecord fd ending act Task.patience [] r) [input] {}
        put (r.close view).1
        return if ok then 0 else 1

end CommandSpec.Utility
