import CommandSpec.Report.Channel

/-!
# The report of one spec

A channel may refuse a line, so the order matters: `fail` marks the testcase before it writes the
reason, and `advance` writes the verdict before it counts.
-/

namespace CommandSpec

structure Tally where
  label : String
  /-- The number of the current testcase, from 1. -/
  index : Nat := 1
  failures : Nat := 0
  failed : Bool := false
  verbose : Bool
  deriving DecidableEq, Repr

namespace Tally

def start (label : String) (verbose : Bool) : Tally :=
  { label, verbose }

/-- Failed and closed testcases. -/
def results (t : Tally) : Nat × Nat :=
  (t.failures, t.index - 1)

def markFailed (t : Tally) : Tally :=
  { t with failed := true }

def next (t : Tally) : Tally :=
  { t with
    index := t.index + 1
    failures := if t.failed then t.failures + 1 else t.failures
    failed := false }

def tagged (t : Tally) (text : String) : String :=
  t.label ++ " #" ++ toString t.index ++ ": " ++ text

/-- What is said of the current testcase when it is closed, if anything. -/
def closing? (t : Tally) : Option String :=
  if t.failed then some "FAILED" else if t.verbose then some "ok" else none

end Tally

/-- The verdict over some testcases: `OK (n passed)` or `FAIL (f/n failed)`. -/
def verdict (failures total : Nat) : String :=
  if failures = 0 then "OK (" ++ toString total ++ " passed)"
  else "FAIL (" ++ toString failures ++ "/" ++ toString total ++ " failed)"

def Tally.summary (t : Tally) : String :=
  t.label ++ ": " ++ verdict t.results.1 t.results.2

structure Report (ω : Type) where
  tally : Tally
  out : ω

/-- Something done to a report; it may stop where the channel refuses. -/
abbrev Reporting (ω : Type) := EStateM Fault (Report ω)

namespace Report

variable {ω : Type}

def start (label : String) (verbose : Bool) (out : ω) : Report ω :=
  ⟨.start label verbose, out⟩

def count (f : Tally → Tally) : Reporting ω Unit :=
  modify fun r => { r with tally := f r.tally }

def counts : Reporting ω Tally :=
  return (← get).tally

variable [Channel ω]

def line (text : String) : Reporting ω Unit := fun r =>
  match Channel.put (text ++ "\n") r.out with
  | .ok _ out => .ok () { r with out }
  | .error fault out => .error fault { r with out }

def lines : List String → Reporting ω Unit
  | [] => pure ()
  | text :: rest => do line text; lines rest

/-- Write a line about the current testcase. -/
def message (text : String) : Reporting ω Unit := do
  line ((← counts).tagged text)

def fail (reason : String) : Reporting ω Unit := do
  count .markFailed
  message ("FAIL: " ++ reason)

def advance : Reporting ω Unit := do
  match (← counts).closing? with
  | some text => message text
  | none => pure ()
  count .next

def summary : Reporting ω Unit := do
  line (← counts).summary

end Report

/-! ## Totals over several specs -/

structure Totals where
  failures : Nat := 0
  total : Nat := 0
  files : Nat := 0
  deriving DecidableEq, Repr

namespace Totals

def add (t : Totals) (results : Nat × Nat) : Totals :=
  ⟨t.failures + results.1, t.total + results.2, t.files + 1⟩

def allPassed (t : Totals) : Bool :=
  t.failures = 0

def summary (t : Totals) : String :=
  "TOTAL: " ++ verdict t.failures t.total

end Totals

end CommandSpec
