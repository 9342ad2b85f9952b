import CommandSpec.Fault
import CommandSpec.Spec.Directive
import CommandSpec.Text.Lines
import CommandSpec.Text.Utf8

/-!
# Where a spec is read from

A source has some bytes at hand and can be asked for more. That changes the place where commands are
run: a file is read piece by piece, while the commands of the lines before change it.
-/

namespace CommandSpec

structure Source (σ : Type) where
  bytes : List UInt8 := []
  /-- How often more bytes may be asked for. -/
  refills : Nat := 0
  /-- Ask for more bytes; none come where the source ends for now. -/
  refill : EStateM Fault σ (List UInt8) := pure []

namespace Source

variable {σ : Type}

def ofBytes (bytes : List UInt8) : Source σ :=
  { bytes }

def ofString (text : String) : Source σ :=
  ofBytes text.toUTF8.toList

/-- A source that fails after the given bytes. -/
def failing (bytes : List UInt8) (fault : Fault) : Source σ :=
  { bytes, refills := 1, refill := throw fault }

end Source

structure SpecLine where
  directive : Directive
  echo : String
  deriving DecidableEq, Repr

namespace SpecLine

def ofChars (cs : List Char) : SpecLine :=
  ⟨.ofLine (Text.trimStart cs), .ofList (Text.trim cs)⟩

def ofBytes (bytes : List UInt8) : SpecLine :=
  ofChars (Utf8.decode bytes)

end SpecLine

end CommandSpec
