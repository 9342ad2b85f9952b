import CommandSpec.RunError
import CommandSpec.Text.Lines
import CommandSpec.Text.Utf8

/-!
# Executors

A process knows only bytes: it is fed the block of the lines that a command is given, and what it
writes is decoded and cut into lines.
-/

namespace CommandSpec

structure Execution where
  exitStatus : Int
  stdout : List String
  stderr : List String
  deriving DecidableEq, Repr

/-- What a command did, from the bytes it wrote: they are decoded and then cut into lines. -/
def Execution.ofBytes (status : Int) (stdout stderr : List UInt8) : Execution :=
  ⟨status, linesOfBlock (.ofList (Utf8.decode stdout)), linesOfBlock (.ofList (Utf8.decode stderr))⟩

structure Output where
  exitStatus : Int
  stdout : List UInt8
  stderr : List UInt8
  deriving DecidableEq, Repr

def executeProcess {σ : Type}
    (process : (command : String) → (input : List UInt8) → EStateM RunError σ Output)
    (command : String) (stdin : List String) : EStateM RunError σ Execution := do
  let output ← process command (Utf8.encode (blockOfLines stdin).toList)
  return .ofBytes output.exitStatus output.stdout output.stderr

/-- Something that runs commands, with a state of type `σ`. -/
class Executor (σ : Type) where
  execute : (command : String) → (stdin : List String) → EStateM RunError σ Execution

end CommandSpec
