import CommandSpec.CommandLine
import CommandSpec.Shell.Machine

/-!
# The program

The program copies the files that its arguments name into the machine that commands are run on,
reads standard input where it is the spec, and hands over to `CommandLine.run`. What commands do to
files, they do to the files of that machine.
-/

open CommandSpec

/-- The machine with a copy of the file that a path names, if it can be read. -/
def copyFile (m : Machine) (path : String) : IO Machine := do
  match ← (IO.FS.readBinFile path).toBaseIO with
  | .ok bytes => return m.withFile path bytes.toList
  | .error _ => return m

/-- Run the program on its arguments. -/
def main (args : List String) : IO UInt32 := do
  let request := CommandLine.request args
  let host ← request.files.foldlM copyFile (Machine.standard.inside "/work")
  let input ← if request.readsInput then (← IO.getStdin).readBinToEnd else pure .empty
  let outcome := CommandLine.run args (.ofBytes input.toList) host
  IO.print outcome.stdout
  IO.eprint outcome.stderr
  return UInt32.ofNat outcome.exitCode
