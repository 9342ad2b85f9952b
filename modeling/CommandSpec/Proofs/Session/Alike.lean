import CommandSpec.Proofs.Session.Course

/-!
# Runs at consoles that are alike

One console can be seen as another: with sinks that took some text before, or with a host in place
of one that keeps a record of it. If the parts of the consoles do the same seen that way, so do
runs.

**Theorem (`Alike.runSpecFiles`).** Spec files are run at a console as they are at the console that
it is seen as.

For one spec this is an induction over the course of its run, with one case for each action; what is
done around it goes step by step.
-/

namespace CommandSpec

section

variable {ω ω' δ δ' σ σ' : Type}

/-- A console, seen through a view of each of its parts. -/
def Console.map (f : ω → ω') (g : δ → δ') (h : σ → σ') (c : Console ω δ σ) : Console ω' δ' σ' :=
  ⟨f c.report, g c.diagnostics, h c.host⟩

/-- Seen through `f`, a channel takes and refuses what another one does. -/
def PutsAlike [Channel ω] [Channel ω'] (f : ω → ω') : Prop :=
  ∀ text, Mirrors f (Channel.put text : EStateM Fault ω Unit) (Channel.put text)

/-- Seen through `h`, commands do at one place what they do at another. -/
def ExecutesAlike [Executor σ] [Executor σ'] (h : σ → σ') : Prop :=
  ∀ command stdin, Mirrors h
    (Executor.execute command stdin : EStateM RunError σ Execution) (Executor.execute command stdin)

/-- Seen through `h`, a source gives what another one does. -/
structure Source.Alike (h : σ → σ') (x : Source σ) (y : Source σ') : Prop where
  bytes : x.bytes = y.bytes
  refills : x.refills = y.refills
  refill : Mirrors h x.refill y.refill

/-- Opening a spec gives sources that are alike, or the same fault. -/
def Source.OpenedAlike (h : σ → σ') :
    EStateM.Result Fault σ (Source σ) → EStateM.Result Fault σ' (Source σ') → Prop
  | .ok x s, .ok y s' => x.Alike h y ∧ s' = h s
  | .error fault s, .error fault' s' => fault' = fault ∧ s' = h s
  | _, _ => False

/-- Seen through `h`, a host does what another one does. -/
structure HostsAlike [Host σ] [Host σ'] (h : σ → σ') : Prop where
  execute : ExecutesAlike h
  currentDirectory :
    Mirrors h (Host.currentDirectory : EStateM Fault σ String) Host.currentDirectory
  enter : ∀ directory,
    Mirrors h (Host.enter directory : EStateM Fault σ Unit) (Host.enter directory)
  openSpec : ∀ path s, Source.OpenedAlike h (Host.openSpec path s) (Host.openSpec path (h s))

theorem putsAlike_id [Channel ω] : PutsAlike (id : ω → ω) := by
  intro text s
  cases h : Channel.put text s <;> simp [seen, h]

theorem hostsAlike_id [Host σ] : HostsAlike (id : σ → σ) := by
  have hid {ε α : Type} (x : EStateM ε σ α) : Mirrors id x x := by
    intro s
    cases h : x s <;> simp [seen, h]
  refine ⟨fun _ _ => hid _, hid _, fun _ => hid _, fun path s => ?_⟩
  show Source.OpenedAlike id (Host.openSpec path s) (Host.openSpec path s)
  cases Host.openSpec path s with
  | ok x s' => exact ⟨⟨rfl, rfl, hid _⟩, rfl⟩
  | error fault s' => exact ⟨rfl, rfl⟩

end

namespace Alike

variable {ω ω' δ δ' σ σ' α : Type} {f : ω → ω'} {g : δ → δ'} {h : σ → σ'}

open Running

theorem report [Channel ω] [Channel ω'] (hf : PutsAlike f) (text : String) :
    Mirrors (Console.map f g h) (report text : Running ω δ σ Unit) (report text) := by
  intro c
  have hput := hf (text ++ "\n") c.report
  unfold Running.report Console.map
  rw [← hput]
  cases Channel.put (text ++ "\n") c.report <;> rfl

theorem diagnose [Channel δ] [Channel δ'] (hg : PutsAlike g) (text : String) :
    Mirrors (Console.map f g h) (diagnose text : Running ω δ σ Unit) (diagnose text) := by
  intro c
  have hput := hg (text ++ "\n") c.diagnostics
  unfold Running.diagnose Console.map
  rw [← hput]
  cases Channel.put (text ++ "\n") c.diagnostics <;> rfl

theorem atHost (toError : Fault → RunError) {x : EStateM Fault σ α} {y : EStateM Fault σ' α}
    (hxy : Mirrors h x y) :
    Mirrors (Console.map f g h) (atHost toError x : Running ω δ σ α) (atHost toError y) := by
  intro c
  have hc := hxy c.host
  unfold Running.atHost Console.map
  rw [← hc]
  cases x c.host <;> rfl

theorem tryHost {x : EStateM Fault σ α} {y : EStateM Fault σ' α} (hxy : Mirrors h x y) :
    Mirrors (Console.map f g h) (tryHost x : Running ω δ σ (Except Fault α)) (tryHost y) := by
  intro c
  have hc := hxy c.host
  unfold Running.tryHost Console.map
  rw [← hc]
  cases x c.host <;> rfl

theorem attempt {x : Running ω δ σ α} {y : Running ω' δ' σ' α}
    (hxy : Mirrors (Console.map f g h) x y) :
    Mirrors (Console.map f g h) (attempt x) (attempt y) := by
  intro c
  unfold Running.attempt
  rw [← hxy c]
  cases x c <;> rfl

/-! ## One spec -/

variable [Channel ω] [Channel ω'] [Channel δ] [Channel δ']

section

variable [Executor σ] [Executor σ']

theorem execute (hexecute : ExecutesAlike h) (command : String) (stdin : List String)
    (label : String) (line : Nat) {refill : EStateM Fault σ (List UInt8)}
    {refill' : EStateM Fault σ' (List UInt8)} :
    Mirrors (Console.map f g h)
      (Action.take ⟨ω, δ, σ, refill⟩ (.call command stdin label line))
      (Action.take ⟨ω', δ', σ', refill'⟩ (.call command stdin label line)) := by
  intro c
  have hc := hexecute command stdin c.host
  simp only [Action.take, Console.map]
  rw [← hc]
  cases Executor.execute command stdin c.host <;> rfl

variable (hf : PutsAlike f) (hg : PutsAlike g) (hexecute : ExecutesAlike h)
include hf hg hexecute

/-- Each action does the same, and so do the answers to it. -/
theorem course {refill : EStateM Fault σ (List UInt8)} {refill' : EStateM Fault σ' (List UInt8)}
    (hrefill : Mirrors h refill refill') (c : Course α) :
    Mirrors (Console.map f g h) (c.run ⟨ω, δ, σ, refill⟩) (c.run ⟨ω', δ', σ', refill'⟩) := by
  induction c with
  | done a => exact .pure _ a
  | act action rest ih =>
    refine Mirrors.bind ?_ ih
    cases action with
    | report text => exact report hf text
    | diagnose text => exact diagnose hg text
    | call command stdin label line => exact execute hexecute command stdin label line
    | read label => exact atHost _ hrefill

theorem runSpec (opts : SpecOptions) (label : String) {x : Source σ} {y : Source σ'}
    (hxy : x.Alike h y) :
    Mirrors (Console.map f g h) (runSpec opts label x : Running ω δ σ (Nat × Nat))
      (runSpec opts label y) := by
  obtain ⟨bytes, refills, refill⟩ := x
  obtain ⟨bytes', refills', refill'⟩ := y
  obtain ⟨rfl, rfl, hrefill⟩ := hxy
  obtain ⟨c, hc⟩ := runSpec_course opts label bytes refills
  have hx : CommandSpec.runSpec opts label ⟨bytes, refills, refill⟩ = c.run ⟨ω, δ, σ, refill⟩ :=
    hc ⟨ω, δ, σ, refill⟩
  have hy : CommandSpec.runSpec opts label ⟨bytes, refills, refill'⟩ =
      c.run ⟨ω', δ', σ', refill'⟩ :=
    hc ⟨ω', δ', σ', refill'⟩
  rw [hx, hy]
  exact course hf hg hexecute hrefill c

end

/-! ## Spec files -/

variable [Host σ] [Host σ'] (hf : PutsAlike f) (hg : PutsAlike g) (hh : HostsAlike h)
  (opts : RunOptions)
include hf hg hh

theorem runOpened (label path : String) :
    Mirrors (Console.map f g h) (runOpened opts label path : Running ω δ σ (Nat × Nat))
      (runOpened opts label path) := by
  intro c
  have hopen := hh.openSpec path c.host
  cases hx : Host.openSpec path c.host with
  | ok x s =>
    cases hy : Host.openSpec path (h c.host) with
    | ok y s' =>
      rw [hx, hy] at hopen
      obtain ⟨hxy, rfl⟩ := hopen
      rw [runOpened_of_ok opts label hx, runOpened_of_ok (c := c.map f g h) opts label hy]
      exact runSpec hf hg hh.execute opts.toSpecOptions label hxy _
    | error fault s' =>
      rw [hx, hy] at hopen
      exact hopen.elim
  | error fault s =>
    cases hy : Host.openSpec path (h c.host) with
    | ok y s' =>
      rw [hx, hy] at hopen
      exact hopen.elim
    | error fault' s' =>
      rw [hx, hy] at hopen
      obtain ⟨rfl, rfl⟩ := hopen
      rw [runOpened_of_error opts label hx, runOpened_of_error (c := c.map f g h) opts label hy]
      rfl

theorem runInside (label directory name : String) :
    Mirrors (Console.map f g h)
      (runInside opts label directory name : Running ω δ σ (Nat × Nat))
      (runInside opts label directory name) := by
  unfold CommandSpec.runInside
  refine (atHost _ hh.currentDirectory).bind fun previous => ?_
  refine (tryHost (hh.enter directory)).bind fun answer => ?_
  cases answer with
  | error fault => exact (diagnose hg _).bind fun _ => .pure _ _
  | ok _ =>
    refine (attempt (runOpened hf hg hh opts label name)).bind fun results => ?_
    refine (atHost _ (hh.enter previous)).bind fun _ => ?_
    cases results with
    | ok results => exact .pure _ _
    | error e => exact fun _ => rfl

theorem runSpecFile (path : String) :
    Mirrors (Console.map f g h) (runSpecFile opts path : Running ω δ σ (Nat × Nat))
      (runSpecFile opts path) := by
  unfold CommandSpec.runSpecFile
  cases place? opts path with
  | some place => exact runInside hf hg hh opts path place.1 place.2
  | none => exact runOpened hf hg hh opts path path

theorem runEach (totals : Totals) (paths : List String) :
    Mirrors (Console.map f g h) (runEach opts totals paths : Running ω δ σ Totals)
      (runEach opts totals paths) := by
  induction paths generalizing totals with
  | nil => exact .pure _ _
  | cons path paths ih => exact (runSpecFile hf hg hh opts path).bind fun results => ih _

/-- **Runs at consoles that are alike do the same.** -/
theorem runSpecFiles {x : Source σ} {y : Source σ'} (hxy : x.Alike h y) (paths : List String) :
    Mirrors (Console.map f g h) (runSpecFiles opts x paths : Running ω δ σ Totals)
      (runSpecFiles opts y paths) := by
  unfold CommandSpec.runSpecFiles
  split
  · exact (runSpec hf hg hh.execute _ _ hxy).bind fun _ => .pure _ _
  · refine (runEach hf hg hh opts {} paths).bind fun totals => ?_
    split
    · exact (report hf _).bind fun _ => .pure _ _
    · exact .pure _ _

end Alike

/-! ## Consoles with sinks -/

deriving instance DecidableEq for Console

/-- A console with sinks that took some text and never refuse. -/
def Console.unlimited {σ : Type} (out err : String) (host : σ) : Console Sink Sink σ :=
  ⟨⟨out, none⟩, ⟨err, none⟩, host⟩

/-- A sink that took some text before. -/
def Sink.after (text : String) (sink : Sink) : Sink :=
  { sink with text := text ++ sink.text }

theorem putsAlike_after (text : String) : PutsAlike (Sink.after text) := by
  rintro text' ⟨taken, room⟩
  cases room with
  | none => simp [Channel.put, Sink.put, Sink.after, seen, String.append_assoc]
  | some n =>
    cases h : (splitAfterLines n text'.toList).2.isEmpty <;>
      simp [Channel.put, Sink.put, Sink.after, seen, h, String.append_assoc]

end CommandSpec
