/-!
# Faults

A fault is told by its wording. Faults of the operating system have a cause and a number;
`OsError.describe` is the one place that words them.
-/

namespace CommandSpec

/-- An input or output operation that failed. -/
structure Fault where
  text : String
  deriving DecidableEq, Repr, Inhabited

inductive OsError where
  | notPermitted
  | noEntry
  | noProcess
  | noDevice
  | notExecutable
  | badDescriptor
  | accessDenied
  | busy
  | alreadyExists
  | notDirectory
  | isDirectory
  | invalid
  | tooManyFiles
  | tooLarge
  | noSpace
  | brokenPipe
  | nameTooLong
  | notEmpty
  | tooManyLinks
  deriving DecidableEq, Repr

namespace OsError

/-- The system's number for the cause. -/
def number : OsError → Nat
  | notPermitted => 1
  | noEntry => 2
  | noProcess => 3
  | noDevice => 6
  | notExecutable => 8
  | badDescriptor => 9
  | accessDenied => 13
  | busy => 16
  | alreadyExists => 17
  | notDirectory => 20
  | isDirectory => 21
  | invalid => 22
  | tooManyFiles => 24
  | tooLarge => 27
  | noSpace => 28
  | brokenPipe => 32
  | nameTooLong => 36
  | notEmpty => 39
  | tooManyLinks => 40

/-- The system's wording of the cause. -/
def wording : OsError → String
  | notPermitted => "Operation not permitted"
  | noEntry => "No such file or directory"
  | noProcess => "No such process"
  | noDevice => "No such device or address"
  | notExecutable => "Exec format error"
  | badDescriptor => "Bad file descriptor"
  | accessDenied => "Permission denied"
  | busy => "Device or resource busy"
  | alreadyExists => "File exists"
  | notDirectory => "Not a directory"
  | isDirectory => "Is a directory"
  | invalid => "Invalid argument"
  | tooManyFiles => "Too many open files"
  | tooLarge => "File too large"
  | noSpace => "No space left on device"
  | brokenPipe => "Broken pipe"
  | nameTooLong => "File name too long"
  | notEmpty => "Directory not empty"
  | tooManyLinks => "Too many levels of symbolic links"

/-- The wording with the number, as reports show it. -/
def describe (e : OsError) : String :=
  e.wording ++ " (os error " ++ toString e.number ++ ")"

def fault (e : OsError) : Fault :=
  ⟨e.describe⟩

end OsError

namespace Fault

def nulInArgument : Fault :=
  ⟨"nul byte found in provided data"⟩

def nulInPath : Fault :=
  ⟨"file name contained an unexpected NUL byte"⟩

def closedChannel : Fault :=
  ⟨"writer closed"⟩

end Fault

end CommandSpec
