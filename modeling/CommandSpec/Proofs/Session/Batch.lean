import CommandSpec.Proofs.Session.Recorder
import CommandSpec.Proofs.Session.Unlimited
import CommandSpec.Proofs.Spec.Succession
import CommandSpec.Proofs.Text.Lines

/-!
# A run of a spec as a batch

A run reads a spec line by line and runs each testcase as soon as the next `!` line closes it. The
batch reads the whole spec first, cuts it into stretches, runs the testcases of the stretches one
after the other and then writes the account of them all.

**Theorem (`runSpec_eq_batch`).** Where every command can be run and no channel refuses, the run and
the batch do the same: they run the same commands, one for each testcase that is not malformed, they
write the same and they count the same.

Which commands are run is seen by a recorder.
-/

namespace CommandSpec

/-! ## Calls -/

/-- Every command can be run. -/
def Unfailing (σ : Type) [Executor σ] : Prop :=
  ∀ (command : String) (stdin : List String) (s : σ),
    ∃ r s', Executor.execute command stdin s = .ok r s'

section

variable {σ : Type} [Executor σ]

theorem Unfailing.exists_answered (hσ : Unfailing σ) (tcs : List Testcase) (s : σ) :
    ∃ as s', Answered tcs s as s' := by
  induction tcs generalizing s with
  | nil => exact ⟨[], s, .nil s⟩
  | cons tc tcs ih =>
    cases hm : tc.malformed with
    | true =>
      obtain ⟨as, s', h⟩ := ih s
      exact ⟨none :: as, s', .cons ⟨hm, rfl⟩ h⟩
    | false =>
      obtain ⟨r, s₁, hr⟩ := hσ tc.command tc.stdin s
      obtain ⟨as, s', h⟩ := ih s₁
      exact ⟨some r :: as, s', .cons ⟨hm, hr⟩ h⟩

/-- One call is made for each testcase that is not malformed. -/
theorem Answered.map_call_trialsOf {tcs : List Testcase} {s s' : σ} {as : List (Option Execution)}
    (h : Answered tcs s as s') :
    (trialsOf tcs as).map Trial.call =
      (tcs.filter fun tc => !tc.malformed).map Testcase.call := by
  induction h with
  | nil => rfl
  | @cons tc tcs _ _ _ a as htc _ ih =>
    rw [trialsOf_cons, List.map_append, ih]
    cases a with
    | none => simp [trialsOf, htc.1]
    | some r => simp [trialsOf, htc.1, Trial.call, Testcase.call]

theorem Testcase.Answered.recorder {tc : Testcase} {s s' : σ} {a : Option Execution}
    (h : tc.Answered s a s') (r : Reading) (older : List Reading) (refused : Bool) :
    tc.Answered (⟨s, r :: older, refused⟩ : Recorder σ) a
      ⟨s', r.extend [] (trialsOf [tc] [a]) :: older, refused⟩ := by
  cases a with
  | none =>
    obtain ⟨hm, rfl⟩ := h
    exact ⟨hm, by simp [trialsOf]⟩
  | some x =>
    obtain ⟨hm, hx⟩ := h
    exact ⟨hm, by simp [Executor.execute, Recorder.observe, hx, trialsOf]⟩

/-- A recorder answers as the host behind it does, and notes the trials. -/
theorem Answered.recorder {tcs : List Testcase} {s s' : σ} {as : List (Option Execution)}
    (h : Answered tcs s as s') (r : Reading) (older : List Reading) (refused : Bool) :
    Answered tcs (⟨s, r :: older, refused⟩ : Recorder σ) as
      ⟨s', r.extend [] (trialsOf tcs as) :: older, refused⟩ := by
  induction h generalizing r with
  | nil => simpa [trialsOf] using Answered.nil _
  | @cons tc tcs _ _ _ a as htc _ ih =>
    have hextend : r.extend [] (trialsOf (tc :: tcs) (a :: as)) =
        (r.extend [] (trialsOf [tc] [a])).extend [] (trialsOf tcs as) := by
      rw [trialsOf_cons, Reading.extend_extend, List.nil_append]
    rw [hextend]
    exact .cons (htc.recorder r older refused) (ih _)

end

/-! ## The batch -/

/-- The lines of a spec. -/
def linesOfSpec (bytes : List UInt8) : List SpecLine :=
  (Text.physicalLines bytes).map SpecLine.ofBytes

/-- After a spec that ends with a newline, lines start afresh. -/
theorem linesOfSpec_append {bytes : List UInt8}
    (h : bytes = [] ∨ bytes.getLast? = some Text.newline) (more : List UInt8) :
    linesOfSpec (bytes ++ more) = linesOfSpec bytes ++ linesOfSpec more := by
  rw [linesOfSpec, Text.physicalLines_append_of_closed h, List.map_append]
  rfl

/-- What a batch does at a console, given the answers to the testcases of a spec and the host that
the last of them left: it counts the failed testcases and all of them, it writes the account of the
stretches and the line that sums it up, and it tells the diagnostics of each rejected line. -/
def batch {σ : Type} (opts : SpecOptions) (label : String) (ls : List SpecLine)
    (as : List (Option Execution)) (host : σ) (out err : String) :
    EStateM.Result RunError (Console Sink Sink σ) (Nat × Nat) :=
  let tcs := testcases SpecLine.directive ls
  let failures := failureCount opts.filterDebug tcs as
  .ok (failures, tcs.length)
    ⟨⟨out ++ blockOfLines (account opts label 1 (stretches SpecLine.directive ls) as ++
        [label ++ ": " ++ verdict failures tcs.length]), none⟩,
      ⟨err ++ blockOfLines ((Draft.empty.answers (ls.map SpecLine.directive)).filterMap
        (Taken.diagnostic? label)), none⟩,
      host⟩

/-- The diagnostics tell of the rejected lines. -/
theorem diagnostics_eq (label : String) (d : Draft) (xs : List Directive) :
    (d.answers xs).filterMap (Taken.diagnostic? label) =
      (d.rejections xs).map fun e => (e.inFile label).render := by
  rw [Draft.rejections, List.map_filterMap]
  congr 1
  funext taken
  cases taken <;> rfl

variable {σ : Type} [Executor σ] {host host' : σ} {as : List (Option Execution)}

/-- A run at channels that never refuse is a session at them. -/
theorem runSpec_unlimited (opts : SpecOptions) (label : String) (source : Source σ)
    (out err : String) (host : σ) :
    runSpec opts label source ⟨(⟨out, none⟩ : Sink), (⟨err, none⟩ : Sink), host⟩ =
      seen (fun s => ⟨s.report.out, s.diagnostics, s.host⟩) (Session.run opts source
        (Session.unlimited (.start label opts.verbose) out (⟨err, none⟩ : Sink) host)) := by
  unfold runSpec Report.start
  cases Session.run opts source
    ⟨⟨.start label opts.verbose, (⟨out, none⟩ : Sink)⟩, (⟨err, none⟩ : Sink), host⟩ <;> rfl

/-- A run of bytes takes their lines one by one and closes. -/
theorem runSpec_ofBytes (opts : SpecOptions) (label : String) (bytes : List UInt8)
    (out err : String) (host : σ) :
    runSpec opts label (.ofBytes bytes) ⟨(⟨out, none⟩ : Sink), (⟨err, none⟩ : Sink), host⟩ =
      seen (fun s => ⟨s.report.out, s.diagnostics, s.host⟩)
        ((Session.takeEach opts .empty (linesOfSpec bytes) >>= Session.close opts)
          (Session.unlimited (.start label opts.verbose) out (⟨err, none⟩ : Sink) host)) := by
  rw [runSpec_unlimited, linesOfSpec, ← Session.takeLines_eq_takeEach]
  rfl

/-- What a run of bytes does depends only on what their lines say. -/
theorem runSpec_congr {ω δ : Type} [Channel ω] [Channel δ] {bytes bytes' : List UInt8}
    (h : linesOfSpec bytes = linesOfSpec bytes') (opts : SpecOptions) (label : String) :
    (runSpec opts label (.ofBytes bytes) : Running ω δ σ (Nat × Nat)) =
      runSpec opts label (.ofBytes bytes') := by
  have htaken : ∀ bytes : List UInt8,
      (Session.run opts (.ofBytes bytes) : Session.Step ω δ σ (Nat × Nat)) = (do
        Session.settle opts (← Session.takeEach opts .empty (linesOfSpec bytes))
        Session.conclude) := fun bytes => by
    rw [Session.run_eq, linesOfSpec, ← Session.takeAll_zero]
    rfl
  unfold runSpec
  rw [htaken bytes, htaken bytes', h]

/-- A run at channels that never refuse is the batch of the answers. -/
theorem runSpec_of_answered (opts : SpecOptions) (label : String) (bytes : List UInt8)
    (out err : String)
    (h : Answered (testcases SpecLine.directive (linesOfSpec bytes)) host as host') :
    runSpec opts label (.ofBytes bytes) ⟨(⟨out, none⟩ : Sink), (⟨err, none⟩ : Sink), host⟩ =
      batch opts label (linesOfSpec bytes) as host' out err := by
  rw [← Draft.due_empty] at h
  rw [runSpec_ofBytes, Session.takeEach_close_unlimited .empty (linesOfSpec bytes) err h rfl rfl,
    Draft.due_empty, Draft.stretches_empty]
  simp [batch, seen, Tally.closedAll, Tally.start, Tally.summary, Tally.results]

/-- **A run is a batch.** Where every command can be run and no channel refuses, a run of a spec
does what the batch of the answers does. On the way it makes exactly one call for each testcase that
is not malformed, in order and with its command and its input. -/
theorem runSpec_eq_batch (hσ : Unfailing σ) (opts : SpecOptions) (label : String)
    (bytes : List UInt8) (out err : String) (host : σ) (r : Reading) (older : List Reading)
    (refused : Bool) :
    ∃ as host', Answered (testcases SpecLine.directive (linesOfSpec bytes)) host as host' ∧
      runSpec opts label (.ofBytes bytes) ⟨(⟨out, none⟩ : Sink), (⟨err, none⟩ : Sink), host⟩ =
        batch opts label (linesOfSpec bytes) as host' out err ∧
      ∃ ts, ts.map Trial.call = ((testcases SpecLine.directive (linesOfSpec bytes)).filter
            fun tc => !tc.malformed).map Testcase.call ∧
        runSpec opts label (.ofBytes bytes)
            ⟨(⟨out, none⟩ : Sink), (⟨err, none⟩ : Sink),
              (⟨host, r :: older, refused⟩ : Recorder σ)⟩ =
          batch opts label (linesOfSpec bytes) as
            (⟨host', r.extend [] ts :: older, refused⟩ : Recorder σ) out err := by
  obtain ⟨as, host', h⟩ :=
    hσ.exists_answered (testcases SpecLine.directive (linesOfSpec bytes)) host
  exact ⟨as, host', h, runSpec_of_answered opts label bytes out err h, _, h.map_call_trialsOf,
    runSpec_of_answered opts label bytes out err (h.recorder r older refused)⟩

theorem unfailing_parrot : Unfailing Parrot := fun _ _ s => ⟨_, s, rfl⟩

/-- A spec with a line before its first command, a testcase that passes, a malformed one and one
that fails. -/
def mixedSpec : List UInt8 :=
  "x\n!a\n<b\n>a\n>b\n!c\n?d\n# e\n!f".toUTF8.toList

theorem runSpec_mixedSpec :
    Unfailing Parrot ∧
    ∃ as host', Answered (testcases SpecLine.directive (linesOfSpec mixedSpec)) ({} : Parrot) as
        host' ∧
      runSpec { verbose := true } "t" (.ofBytes mixedSpec)
          ⟨(⟨"", none⟩ : Sink), (⟨"", none⟩ : Sink), ({} : Parrot)⟩ =
        batch { verbose := true } "t" (linesOfSpec mixedSpec) as host' "" "" ∧
      ∃ ts, ts.map Trial.call = [("a", ["b"]), ("f", [])] ∧
        runSpec { verbose := true } "t" (.ofBytes mixedSpec)
            ⟨(⟨"", none⟩ : Sink), (⟨"", none⟩ : Sink),
              (⟨{}, [⟨"t", [], 0, [], []⟩], false⟩ : Recorder Parrot)⟩ =
          batch { verbose := true } "t" (linesOfSpec mixedSpec) as
            (⟨host', [⟨"t", [], 0, [], ts⟩], false⟩ : Recorder Parrot) "" "" := by
  have hcalls : ((testcases SpecLine.directive (linesOfSpec mixedSpec)).filter
      fun tc => !tc.malformed).map Testcase.call = [("a", ["b"]), ("f", [])] := by
    decide +kernel
  obtain ⟨as, host', h, hrun, ts, hts, hrec⟩ :=
    runSpec_eq_batch unfailing_parrot { verbose := true } "t" mixedSpec "" "" {}
      ⟨"t", [], 0, [], []⟩ [] false
  exact ⟨unfailing_parrot, as, host', h, hrun, ts, hts.trans hcalls, hrec⟩

end CommandSpec
