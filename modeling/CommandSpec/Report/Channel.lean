import CommandSpec.Fault

/-!
# Channels

A channel may refuse a text after it has taken a part of it, so `put` keeps its state on both paths.
-/

namespace CommandSpec

class Channel (ω : Type) where
  put : String → EStateM Fault ω Unit

instance : Channel String :=
  ⟨fun text taken => .ok () (taken ++ text)⟩

/-- The characters up to and including the `n`-th newline, and the characters after it. -/
def splitAfterLines : Nat → List Char → List Char × List Char
  | 0, cs => ([], cs)
  | _ + 1, [] => ([], [])
  | n + 1, c :: cs =>
    let (taken, rest) := splitAfterLines (if c = '\n' then n else n + 1) cs
    (c :: taken, rest)

structure Sink where
  text : String := ""
  /-- How many more newlines are taken; without a limit, every text is. -/
  room : Option Nat := none
  deriving DecidableEq, Repr, Inhabited

namespace Sink

def unlimited : Sink := {}

def limited (n : Nat) : Sink := { room := some n }

/-- Take as much of a text as there is room for, and refuse if anything is left. -/
def put (text : String) : EStateM Fault Sink Unit := fun sink =>
  match sink.room with
  | none => .ok () { sink with text := sink.text ++ text }
  | some n =>
    let (taken, rest) := splitAfterLines n text.toList
    let sink := ⟨sink.text ++ .ofList taken, some (n - taken.count '\n')⟩
    if rest.isEmpty then .ok () sink else .error .closedChannel sink

instance : Channel Sink := ⟨put⟩

end Sink

end CommandSpec
