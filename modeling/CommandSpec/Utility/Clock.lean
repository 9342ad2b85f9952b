import CommandSpec.Utility.Inputs
import CommandSpec.Utility.Moment
import CommandSpec.Utility.Outcome

/-!
# `date`

`date` tells the time, or another moment that is told in words, in a format. The clock cannot be set.
-/

namespace CommandSpec.Utility

/-- The format for the parts of a date that a word asks for. -/
def isoFormat (option word : String) : Except String String :=
  if word = "" then .ok "%Y-%m-%d"
  else readChoice option word
    [(["hours"], "%Y-%m-%dT%H%:z"), (["minutes"], "%Y-%m-%dT%H:%M%:z"), (["date"], "%Y-%m-%d"),
      (["seconds"], "%Y-%m-%dT%H:%M:%S%:z"), (["ns"], "%Y-%m-%dT%H:%M:%S,%N%:z")]

/-- The formats that an option asks for. -/
def dateFormat? (option value : String) : Except String (Option String) :=
  match option with
  | "R" => .ok (some "%a, %d %b %Y %H:%M:%S %z")
  | "I" => (isoFormat "--iso-8601" value).map some
  | "rfc-3339" =>
    (readChoice "--rfc-3339" value
      [(["date"], "%Y-%m-%d"), (["seconds"], "%Y-%m-%d %H:%M:%S%:z"), (["ns"], "%Y-%m-%d %H:%M:%S.%N%:z")]).map some
  | _ => .ok none

/-- Tell a moment for every line of an input. -/
def tellLines (operand : String) (tell : String → Task Bool) : Task Nat := do
  match ← readInput operand with
  | .error e => failWith 1 (forShell operand ++ ": " ++ e.wording)
  | .ok text => forOperands (linesOfBlock text) tell

/-- Tell the time: `date [-u] [-d text] [-f file] [-r file] [-I[part]] [-R] [+format]`. -/
def date (args : List String) : Task Nat :=
  let table : OptionTable :=
    { flags := "Ru", valued := "dfrs", attached := "I", valuedWords := ["rfc-3339"], words := ["debug"]
      names := [("date", "d"), ("file", "f"), ("iso-8601", "I"), ("reference", "r"), ("rfc-email", "R"),
        ("rfc-822", "R"), ("rfc-2822", "R"), ("set", "s"), ("universal", "u"), ("utc", "u"), ("uct", "u")] }
  withOptions table args fun a => do
    match a.options.mapM fun (option, value) => dateFormat? option value with
    | .error complaint => misuse complaint 1
    | .ok formats =>
      let sources := ["d", "f", "r"].filter a.has
      if sources.length > 1 then
        return (← misuse "the options to specify dates for printing are mutually exclusive" 1)
      if !sources.isEmpty && a.has "s" then
        return (← misuse "the options to print and set the time may not be used together" 1)
      let given := formats.filterMap id
      let operand? := a.operands.head?
      let isFormat := operand?.any fun o => o.toList.head? = some '+'
      if let _ :: extra :: _ := a.operands then
        return (← misuse ("extra operand " ++ inQuotes extra) 1)
      let environment := (← read).environment
      let zone := if a.has "u" then {} else Zone.ofEnvironment environment
      let all := given ++ if isFormat then [String.ofList ((operand?.getD "").toList.drop 1)] else []
      if all.length > 1 then return (← failWith 1 "multiple output formats specified")
      if operand?.isSome && !isFormat && (!sources.isEmpty || a.has "s") then
        Task.complain ("the argument " ++ inQuotes (operand?.getD "") ++ " lacks a leading '+';\n"
          ++ "when using an option to specify date(s), any non-option\n"
          ++ "argument must be a format string beginning with '+'")
        return (← hint 1)
      let format := all.headD "%a %b %e %H:%M:%S %Z %Y"
      let tell (moment : Int) : Task Bool := do
        Task.printLine (Date.write format moment zone)
        return true
      let now ← Task.now
      let tellText (text : String) : Task Bool :=
        match readMoment? now text zone with
        | some moment => tell moment
        | none => refuse ("invalid date " ++ inQuotes text)
      let settled (done : Bool) : Nat := if done then 0 else 1
      match sources.head?, a.value? "s", operand? with
      | some "f", _, _ => tellLines ((a.value? "f").getD "") tellText
      | some "r", _, _ =>
        let path := (a.value? "r").getD ""
        match ← look path with
        | .error e => failWith 1 (forShell path ++ ": " ++ e.wording)
        | .ok n => return settled (← tell n.modified)
      | some _, _, _ => return settled (← tellText ((a.value? "d").getD ""))
      | none, some text, _ =>
        match readMoment? now text zone with
        | none => failWith 1 ("invalid date " ++ inQuotes text)
        | some moment =>
          Task.complain ("cannot set date: " ++ OsError.notPermitted.wording)
          let _ ← tell moment
          return 1
      | none, none, some text =>
        if isFormat then return settled (← tell now)
        match Date.readStamp? now text with
        | none => failWith 1 ("invalid date " ++ inQuotes text)
        | some d =>
          Task.complain ("cannot set date: " ++ OsError.notPermitted.wording)
          let _ ← tell d.moment
          return 1
      | none, none, none => return settled (← tell now)

end CommandSpec.Utility
