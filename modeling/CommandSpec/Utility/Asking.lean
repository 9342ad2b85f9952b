import CommandSpec.Machine.Task

/-!
# Questions

Before it overwrites or removes something, a utility may ask on standard error and read a line of
standard input for an answer. It reads more than a line at once; what it has not used when it ends is
given back if standard input is a file, and is lost otherwise.
-/

namespace CommandSpec.Utility

/-- The next line of standard input, taken from what was read ahead; at most `fuel` reads. -/
def readAnswer : (fuel : Nat) → Task String
  | 0 => return ""
  | fuel + 1 => do
    let ahead := (← Task.call Call.self).ahead
    let keep (rest : String) : Task Unit :=
      Task.call (Call.modifySelf fun p => { p with ahead := rest })
    let cs := ahead.toList
    let line := cs.takeWhile (· ≠ '\n')
    if line.length < cs.length then
      keep (.ofList (cs.drop (line.length + 1)))
      return .ofList line
    else
      match ← Task.readChunk 0 4096 with
      | .error _ => return ahead
      | .ok "" =>
        keep ""
        return ahead
      | .ok chunk =>
        keep (ahead ++ chunk)
        readAnswer fuel

/-- Ask a question: whether the answer is yes. -/
def confirm (question : String) : Task Bool := do
  let _ ← Task.write 2 ((← read).speaker ++ ": " ++ question ++ "? ")
  let answer ← readAnswer Task.patience
  return answer.toList.head? = some 'y' || answer.toList.head? = some 'Y'

/-- Give back what was read ahead. -/
def giveBack : Task Unit := do
  let ahead := (← Task.call Call.self).ahead
  if ahead ≠ "" then Task.call (Call.seekBack 0 ahead.length)

end CommandSpec.Utility
