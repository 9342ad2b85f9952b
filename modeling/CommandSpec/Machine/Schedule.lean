import CommandSpec.Machine.Task

/-!
# Running programs in turns

Every process has a clock of its own, which its pauses advance, and the one whose clock is behind all
others runs next, up to its next pause. A process that waits takes over the time at which what it
waits for came about. When all of them wait for a time, the time jumps to the first of these.
-/

namespace CommandSpec

/-- A process with the program it runs and its own time. -/
structure Thread where
  pid : Nat
  time : Nat
  program : Program
  deriving Inhabited

namespace Thread

/-- The time it takes until a waiting process sees that it may go on. -/
def latency : Nat := 30

/-- The time it takes to start a child, for the child and for who starts it. -/
def forkCosts : Nat × Nat := (300, 150)

/-- When the thread can go on, if nothing else happens before. -/
def resumes? (t : Thread) (k : Kernel) : Option Nat :=
  if ((k.process? t.pid).any Process.stopped) then none
  else
    match t.program with
    | .await _ wake _ => wake.map (max t.time)
    | _ => some t.time

/-- The thread, which goes on soon if what it waits for is there. -/
def settled (k : Kernel) (t : Thread) : Thread :=
  match t.program with
  | .await ready _ next =>
    if ready { k with current := t.pid } then { t with time := max t.time (k.files.now + latency), program := next }
    else t
  | _ => t

/-- Carry out the steps at the head of a program; at most `fuel` of them. -/
def steps : (fuel : Nat) → Program → Kernel → Program × Kernel
  | fuel + 1, .step f, k =>
    let (p, k) := f k
    steps fuel p k
  | _, p, k => (p, k)

/-- Run a thread up to its next pause, wait or end: the threads that are left of it. -/
def run (t : Thread) (k : Kernel) : List Thread × Kernel :=
  let (p, k) := steps Task.patience t.program k
  match p with
  | .finish status => ([], k.conclude t.pid (.exited (status % 256)))
  | .pause cost next => ([{ t with time := t.time + cost, program := next }], k)
  | .fork child next =>
    let (pid, k) := k.fork
    ([⟨t.pid, t.time + forkCosts.2, next pid⟩, ⟨pid, t.time + forkCosts.1, child⟩], k)
  | p => ([{ t with program := p }], k)

/-- The thread with a wait taken off its program. -/
def awake (t : Thread) (time : Nat) : Thread :=
  match t.program with
  | .await _ _ next => { t with time, program := next }
  | _ => { t with time }

/-- The thread that runs next, with the time at which it does, and the others. -/
def choose? (k : Kernel) : List Thread → Option (Thread × Nat × List Thread)
  | [] => none
  | t :: rest =>
    match t.resumes? k, choose? k rest with
    | none, none => none
    | some time, none => some (t, time, rest)
    | none, some (best, time, others) => some (best, time, t :: others)
    | some time, some (best, earliest, others) =>
      if time ≤ earliest then some (t, time, rest) else some (best, earliest, t :: others)

/-- Run threads in turns until the kernel is in a certain state or all of them wait in vain; at most
`fuel` turns. -/
def runAll (isOver : Kernel → Bool) : (fuel : Nat) → List Thread → Kernel → List Thread × Kernel
  | 0, threads, k => (threads, k)
  | fuel + 1, threads, k =>
    if isOver k then (threads, k)
    else
      match choose? k ((threads.filter fun t => k.isLive t.pid).map (settled k)) with
      | none => (threads, k)
      | some (t, time, others) =>
        let (left, k) := (t.awake time).run (k.switch t.pid (max k.files.now time))
        runAll isOver fuel (others ++ left) k

end Thread

end CommandSpec
