import CommandSpec.Report.Diff
import CommandSpec.Report.Tally

/-!
# Checks

A check compares one channel of a command, or its exit status, with what was expected, and reports a
difference.
-/

namespace CommandSpec.Report

variable {ω : Type} [Channel ω]

/-- Whether debug lines are left out of the comparison. -/
def hasDebug (filter : Bool) (actual : List String) : Bool :=
  filter && actual.any isDebug

/-- Whether the printed lines are the expected ones. Only where debug lines are left out, the other
lines are collected and compared one by one. -/
def agrees (filter : Bool) (actual expected : List String) : Bool :=
  if hasDebug filter actual then
    let kept := actual.filter fun line => !isDebug line
    kept.length = expected.length && (kept.zip expected).all fun (a, e) => a = e
  else actual = expected

def diffHeader (channel : String) : String :=
  "--- " ++ channel ++ " ---"

def listingHeader (channel : String) : String :=
  "--- " ++ channel ++ " (OK) ---"

/-- Check one channel: whether it agrees, after a report of what is to be shown. -/
def check (channel command : String) (actual expected : List String) (filter : Bool) :
    Reporting ω Bool := do
  if agrees filter actual expected then
    if hasDebug filter actual then
      line (listingHeader channel)
      lines ((listing actual).map Row.render)
    return true
  else
    fail (channel ++ " differs for: " ++ command)
    line (diffHeader channel)
    lines ((diff filter actual expected).map Row.render)
    return false

def checkExitStatus (command : String) (actual expected : Int) : Reporting ω Bool := do
  if actual = expected then
    return true
  else
    fail ("exit status " ++ toString actual ++ ", expected " ++ toString expected ++ " for: " ++
      command)
    return false

end CommandSpec.Report
