import CommandSpec.Text.Integer

/-!
# Signals by name

A signal is told by a number or by a name without `SIG` before it. Signal 0, `EXIT`, stands for the
end of a shell.
-/

namespace CommandSpec.Shell

/-- The names of signals and their numbers. -/
def signals : List (String × Nat) :=
  [ ("EXIT", 0), ("HUP", 1), ("INT", 2), ("QUIT", 3), ("ILL", 4), ("TRAP", 5), ("ABRT", 6),
    ("BUS", 7), ("FPE", 8), ("KILL", 9), ("USR1", 10), ("SEGV", 11), ("USR2", 12), ("PIPE", 13),
    ("ALRM", 14), ("TERM", 15), ("16", 16), ("CHLD", 17), ("CONT", 18), ("STOP", 19),
    ("TSTP", 20), ("TTIN", 21), ("TTOU", 22), ("URG", 23), ("XCPU", 24), ("XFSZ", 25),
    ("VTALRM", 26), ("PROF", 27), ("WINCH", 28), ("IO", 29), ("PWR", 30), ("SYS", 31), ("32", 32),
    ("33", 33), ("RTMIN", 34) ]
  ++ (List.range 15).map (fun n => ("RTMIN+" ++ toString (n + 1), 35 + n))
  ++ (List.range 14).map (fun n => ("RTMAX-" ++ toString (14 - n), 50 + n)) ++ [("RTMAX", 64)]

/-- The number of a signal given by number or by name. -/
def signal? (s : String) : Option Nat :=
  match Text.readNumber? s with
  | some n => if n ≤ 64 then some n else none
  | none => signals.lookup s.toUpper

/-- The name of a signal. -/
def signalName (n : Nat) : String :=
  ((signals.find? (·.2 = n)).map Prod.fst).getD (toString n)

/-- What is said of a process that a signal killed. -/
def signalText (n : Nat) : String :=
  let texts : List (Nat × String) :=
    [ (1, "Hangup"), (2, "Interrupt"), (3, "Quit"), (4, "Illegal instruction"),
      (5, "Trace/breakpoint trap"), (6, "Aborted"), (7, "Bus error"), (8, "Floating point exception"),
      (9, "Killed"), (10, "User defined signal 1"), (11, "Segmentation fault"),
      (12, "User defined signal 2"), (13, "Broken pipe"), (14, "Alarm clock"), (15, "Terminated"),
      (16, "Stack fault"), (24, "CPU time limit exceeded"), (25, "File size limit exceeded"),
      (26, "Virtual timer expired"), (27, "Profiling timer expired"), (29, "I/O possible"),
      (30, "Power failure"), (31, "Bad system call") ]
  (texts.lookup n).getD ("Real-time signal " ++ toString (n - 34))

end CommandSpec.Shell
