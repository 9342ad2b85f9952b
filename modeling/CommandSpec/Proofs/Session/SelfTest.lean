import CommandSpec.Proofs.Report.Noise
import CommandSpec.Proofs.Session.Halt
import CommandSpec.Proofs.Session.Logbook
import CommandSpec.Proofs.Spec.Closing
import CommandSpec.Session.SelfTest

/-!
# What the self-test certifies

The checks of the self-test come down to six demands on an executor, each a call and the answers
that are accepted (`demands`). The calls are made in order, each where the one before has left the
executor (`Replies`).

**Theorem (`runWith_certifies`).** If all calls are answered, the self-test passes exactly if all
demands are met, and its last line says so. Otherwise it stops with the error of the first call that
fails, and writes no such line. The options of the engine that is tested make no difference, and
neither does a logbook that notes the calls.

A check either makes the call of the next demand (`Sample.Asks`), or it makes no call and passes
(`Sample.Quiet`). The samples are gone through by an induction on how they fall into these two kinds
(`Covers`). How far the report has come is said by `Checks` and `Stops`, which are closed under
sequences.
-/

namespace CommandSpec.SelfTest

/-! ## Demands -/

/-- What a check demands of an executor: a call, and the answers to it that are accepted. -/
structure Demand where
  check : String
  command : String
  stdin : List String := []
  accepts : Execution → Bool

/-- The command that is run and the lines that it is fed. -/
def Demand.call (d : Demand) : String × List String :=
  (d.command, d.stdin)

/-- What the self-test demands. -/
def demands : List Demand :=
  [ { check := "echo", command := "echo hello", accepts := fun r => r = ⟨0, ["hello"], []⟩ },
    { check := "exit-status", command := "exit 3", accepts := fun r => r = ⟨3, [], []⟩ },
    { check := "mismatch", command := "echo wrong", accepts := fun r => r ≠ ⟨0, ["right"], []⟩ },
    { check := "stdin", command := "cat", stdin := ["in"],
      accepts := fun r => r = ⟨0, ["in"], []⟩ },
    { check := "debug-filter", command := "echo '#n'; echo ok",
      accepts := fun r => r.exitStatus = 0 ∧ shown true r.stdout = ["ok"] ∧
        shown true r.stderr = [] },
    { check := "debug-unfiltered", command := "echo '#n'; echo ok",
      accepts := fun r => r ≠ ⟨0, ["ok"], []⟩ } ]

/-- How many demands are not met by the answers. -/
def unmet (ds : List Demand) (rs : List Execution) : Nat :=
  (ds.zip rs).countP fun p => !p.1.accepts p.2

section

variable {σ : Type} [Executor σ]

/-- The answers to the calls of demands, made one after the other. -/
inductive Replies : List Demand → σ → List Execution → σ → Prop
  | nil (s : σ) : Replies [] s [] s
  | cons {d : Demand} {ds : List Demand} {s s₁ s' : σ} {r : Execution} {rs : List Execution} :
      Executor.execute d.command d.stdin s = .ok r s₁ → Replies ds s₁ rs s' →
      Replies (d :: ds) s (r :: rs) s'

/-- The call of a demand fails, and those before it are answered. -/
structure Fails (ds : List Demand) (s : σ) (before : List Demand) (d : Demand) (e : RunError)
    (s' : σ) : Prop where
  split : ∃ after, ds = before ++ d :: after
  failed : ∃ rs s₁, Replies before s rs s₁ ∧
    Executor.execute d.command d.stdin s₁ = .error e s'

/-- All calls are answered, or one of them is the first that fails. -/
theorem replies_or_fails (ds : List Demand) (s : σ) :
    (∃ rs s', Replies ds s rs s') ∨ ∃ before d e s', Fails ds s before d e s' := by
  induction ds generalizing s with
  | nil => exact .inl ⟨[], s, .nil s⟩
  | cons d ds ih =>
    cases h : Executor.execute d.command d.stdin s with
    | error e s' => exact .inr ⟨[], d, e, s', ⟨ds, rfl⟩, [], s, .nil s, h⟩
    | ok r s₁ =>
      rcases ih s₁ with ⟨rs, s', hrs⟩ | ⟨before, d', e, s', ⟨after, rfl⟩, rs, s₂, hrs, he⟩
      · exact .inl ⟨r :: rs, s', .cons h hrs⟩
      · exact .inr ⟨d :: before, d', e, s', ⟨after, rfl⟩, r :: rs, s₂, .cons h hrs, he⟩

/-- A logbook answers as the host behind it does, and notes the calls. -/
theorem Replies.logbook {ds : List Demand} {s s' : σ} {rs : List Execution}
    (h : Replies ds s rs s') (calls : List (String × List String)) :
    Replies ds (⟨s, calls⟩ : Logbook σ) rs ⟨s', calls ++ ds.map Demand.call⟩ := by
  induction h generalizing calls with
  | nil s => simpa using Replies.nil (⟨s, calls⟩ : Logbook σ)
  | @cons d ds s s₁ s' r rs hd _ ih =>
    have hnoted : Executor.execute d.command d.stdin (⟨s, calls⟩ : Logbook σ) =
        .ok r ⟨s₁, calls ++ [d.call]⟩ := by
      show seen _ (Executor.execute d.command d.stdin s) = _
      rw [hd]
      rfl
    have hrest := ih (calls ++ [d.call])
    rw [List.append_assoc, List.singleton_append] at hrest
    exact .cons hnoted hrest

theorem Fails.logbook {ds before : List Demand} {d : Demand} {e : RunError} {s s' : σ}
    (h : Fails ds s before d e s') :
    Fails ds (⟨s, []⟩ : Logbook σ) before d e ⟨s', (before ++ [d]).map Demand.call⟩ := by
  obtain ⟨hsplit, rs, s₁, hrs, he⟩ := h
  refine ⟨hsplit, rs, _, hrs.logbook [], ?_⟩
  rw [execute_logbook_of_error he, List.nil_append, List.map_append]
  rfl

end

/-! ## Samples -/

/-- The testcases of the spec of a check. -/
def Sample.testcases (x : Sample) : List Testcase :=
  CommandSpec.testcases SpecLine.directive (linesOfSpec x.spec.toUTF8.toList)

/-- The check makes the call of a demand, and passes exactly if the answer is accepted. -/
structure Sample.Asks (x : Sample) (d : Demand) (tc : Testcase) : Prop where
  testcases : x.testcases = [tc]
  malformed : tc.malformed = false
  line : tc.line = 1
  check : d.check = x.name
  command : tc.command = d.command
  stdin : tc.stdin = d.stdin
  accepts : ∀ r, d.accepts r = true ↔
    ((if tc.Holds x.filterDebug r then 0 else 1, 1) : Nat × Nat) = x.expected

/-- The check makes no call, and it passes. -/
structure Sample.Quiet (x : Sample) : Prop where
  malformed : ∀ tc ∈ x.testcases, tc.malformed = true
  passes : (x.testcases.length, x.testcases.length) = x.expected

section

variable {ω δ σ : Type} [Executor σ] (engine : SpecOptions) {x : Sample} {s : Session ω δ σ}
  {host : σ}

/-- A run stops at the first testcase whose command cannot be started. -/
theorem exists_runSpec_error (opts : SpecOptions) (label : String) {bytes : List UInt8}
    {earlier later : List Testcase} {tc : Testcase} {as : List (Option Execution)} {e : RunError}
    {s s₁ s₂ : σ}
    (h : CommandSpec.testcases SpecLine.directive (linesOfSpec bytes) = earlier ++ tc :: later)
    (ha : Answered earlier s as s₁) (hm : tc.malformed = false)
    (he : Executor.execute tc.command tc.stdin s₁ = .error e s₂) :
    ∃ out err, runSpec opts label (.ofBytes bytes) (.unlimited "" "" s) =
      .error (e.located label tc.line) (.unlimited out err s₂) := by
  obtain ⟨hcloses, hpending, hrest, -⟩ := exists_closing h hm
  rw [← hcloses] at ha
  exact ⟨_, _, runSpec_of_pending opts label (List.take_append_drop _ _).symm ha hpending hm he
    hrest "" ""⟩

theorem runSample_of_answered {as : List (Option Execution)}
    (h : Answered x.testcases s.host as host) :
    runSample engine x s =
      .ok (failureCount x.filterDebug x.testcases as, x.testcases.length) { s with host } := by
  have hrun : runSpec (x.options engine) x.name (.ofString x.spec)
      ⟨Sink.unlimited, Sink.unlimited, s.host⟩ =
      batch (x.options engine) x.name (linesOfSpec x.spec.toUTF8.toList) as host "" "" :=
    runSpec_of_answered _ _ _ _ _ h
  simp only [runSample, hrun, batch]
  rfl

theorem runSample_of_ok {d : Demand} {tc : Testcase} {r : Execution} (hx : x.Asks d tc)
    (h : Executor.execute d.command d.stdin s.host = .ok r host) :
    ∃ got, runSample engine x s = .ok got { s with host } ∧
      (got = x.expected ↔ d.accepts r = true) := by
  rw [← hx.command, ← hx.stdin] at h
  have hanswered : Answered x.testcases s.host [some r] host := by
    rw [hx.testcases]
    exact .cons ⟨hx.malformed, h⟩ (.nil host)
  refine ⟨_, runSample_of_answered engine hanswered, ?_⟩
  rw [hx.accepts r, hx.testcases]
  by_cases hholds : tc.Holds x.filterDebug r <;>
    simp [failureCount, Testcase.passes, hholds]

theorem runSample_of_error {d : Demand} {tc : Testcase} {e : RunError} (hx : x.Asks d tc)
    (h : Executor.execute d.command d.stdin s.host = .error e host) :
    runSample engine x s = .error (e.located d.check 1) { s with host } := by
  rw [← hx.command, ← hx.stdin] at h
  have hsplit : CommandSpec.testcases SpecLine.directive (linesOfSpec x.spec.toUTF8.toList) =
      [] ++ tc :: [] :=
    hx.testcases
  obtain ⟨out, err, hrun⟩ := exists_runSpec_error (x.options engine) x.name hsplit
    (.nil s.host) hx.malformed h
  have hstart : runSpec (x.options engine) x.name (.ofString x.spec)
      ⟨Sink.unlimited, Sink.unlimited, s.host⟩ =
      .error (e.located x.name tc.line) (.unlimited out err host) :=
    hrun
  rw [hx.check, ← hx.line]
  simp only [runSample, hstart]
  rfl

omit [Executor σ] in
theorem failureCount_of_malformed (filter : Bool) (tcs : List Testcase) :
    failureCount filter tcs (tcs.map fun _ => none) = tcs.length := by
  induction tcs with
  | nil => rfl
  | cons tc tcs ih => simpa [failureCount, Testcase.passes] using ih

theorem answered_of_malformed {tcs : List Testcase} (h : ∀ tc ∈ tcs, tc.malformed = true)
    (s : σ) : Answered tcs s (tcs.map fun _ => none) s := by
  induction tcs with
  | nil => exact .nil s
  | cons tc tcs ih =>
    rw [List.forall_mem_cons] at h
    exact .cons ⟨h.1, rfl⟩ (ih h.2)

theorem runSample_of_quiet (hx : x.Quiet) : runSample engine x s = .ok x.expected s := by
  rw [runSample_of_answered engine (answered_of_malformed hx.malformed s.host),
    failureCount_of_malformed, hx.passes]

end

/-! ## How far the report has come -/

/-- The lines each tell something of one check. -/
def Tagged (label : String) (rows : List String) : Prop :=
  ∀ row ∈ rows, ∃ k text, row = Report.tagged label k text

theorem Tagged.append {label : String} {rows rows' : List String} (h : Tagged label rows)
    (h' : Tagged label rows') : Tagged label (rows ++ rows') :=
  List.forall_mem_append.2 ⟨h, h'⟩

/-- The counts after `n` more checks, `f` of which failed. -/
def countsAfter (t : Tally) (n f : Nat) : Tally :=
  { t with index := t.index + n, failures := t.failures + f }

section

variable {δ σ : Type} {s s₁ s' : σ} {x y : Step Sink δ σ Unit}

/-- The step closes `n` checks, `f` of which fail, and leaves the executor in `s'`. -/
def Checks (x : Step Sink δ σ Unit) (s s' : σ) (n f : Nat) : Prop :=
  ∀ t out err, t.failed = false → ∃ rows, Tagged t.label rows ∧
    x (Session.unlimited t out err s) =
      .ok () (Session.unlimited (countsAfter t n f) (out ++ blockOfLines rows) err s')

/-- The step closes some checks and then stops with an error. -/
def Stops (x : Step Sink δ σ Unit) (s s' : σ) (e : RunError) : Prop :=
  ∀ t out err, t.failed = false → ∃ rows t', Tagged t.label rows ∧
    x (Session.unlimited t out err s) =
      .error e (Session.unlimited t' (out ++ blockOfLines rows) err s')

theorem Checks.bind {n f m g : Nat} (hx : Checks x s s₁ n f) (hy : Checks y s₁ s' m g) :
    Checks (do x; y) s s' (n + m) (f + g) := by
  intro t out err ht
  obtain ⟨rows, hrows, hrun⟩ := hx t out err ht
  obtain ⟨rows', hrows', hrun'⟩ := hy (countsAfter t n f) (out ++ blockOfLines rows) err ht
  refine ⟨rows ++ rows', hrows.append hrows', ?_⟩
  rw [bind_of_ok hrun, hrun', blockOfLines_append]
  simp only [countsAfter, Nat.add_assoc, String.append_assoc]

theorem Checks.stops {n f : Nat} {e : RunError} (hx : Checks x s s₁ n f) (hy : Stops y s₁ s' e) :
    Stops (do x; y) s s' e := by
  intro t out err ht
  obtain ⟨rows, hrows, hrun⟩ := hx t out err ht
  obtain ⟨rows', t', hrows', hrun'⟩ := hy (countsAfter t n f) (out ++ blockOfLines rows) err ht
  refine ⟨rows ++ rows', t', hrows.append hrows', ?_⟩
  rw [bind_of_ok hrun, hrun', blockOfLines_append, String.append_assoc]

theorem Stops.bind {e : RunError} (hx : Stops x s s' e) : Stops (do x; y) s s' e := by
  intro t out err ht
  obtain ⟨rows, t', hrows, hrun⟩ := hx t out err ht
  exact ⟨rows, t', hrows, bind_of_error hrun⟩

theorem checks_pure (s : σ) : Checks (pure () : Step Sink δ σ Unit) s s 0 0 := by
  intro t out err _
  refine ⟨[], by simp [Tagged], ?_⟩
  rw [blockOfLines_nil, String.append_empty]
  rfl

/-- A check that passes is closed as it stands. -/
theorem checks_record_none (s : σ) : Checks (record none : Step Sink δ σ Unit) s s 1 0 := by
  intro t out err ht
  have hnext : t.next = countsAfter t 1 0 := by
    rw [Tally.next, countsAfter, ht]
    rfl
  refine ⟨t.closing?.toList.map (Report.tagged t.label t.index), by simp [Tagged], ?_⟩
  rw [← hnext]
  exact Session.reporting_unlimited (Report.advance_unlimited t out) err s

/-- A check that fails says why before it is closed. -/
theorem checks_record_some (reason : String) (s : σ) :
    Checks (record (some reason) : Step Sink δ σ Unit) s s 1 1 := by
  intro t out err ht
  have hnext : t.markFailed.next = countsAfter t 1 1 := by
    rw [Tally.next, countsAfter, ← ht]
    rfl
  have hfail := Report.fail_unlimited t out reason
  have hadvance := Report.advance_unlimited t.markFailed
    (out ++ blockOfLines [Report.tagged t.label t.index ("FAIL: " ++ reason)])
  refine ⟨[Report.tagged t.label t.index ("FAIL: " ++ reason)] ++
    t.markFailed.closing?.toList.map (Report.tagged t.label t.index), by simp [Tagged], ?_⟩
  rw [blockOfLines_append, ← String.append_assoc, ← hnext]
  exact Session.reporting_unlimited ((bind_of_ok hfail).trans hadvance) err s

end

/-! ## The samples -/

/-- The samples make the calls of the demands, and no others. -/
inductive Covers : List Sample → List Demand → Prop
  | nil : Covers [] []
  | asks {x : Sample} {d : Demand} {xs : List Sample} {ds : List Demand} (tc : Testcase) :
      x.Asks d tc → Covers xs ds → Covers (x :: xs) (d :: ds)
  | quiet {x : Sample} {xs : List Sample} {ds : List Demand} :
      x.Quiet → Covers xs ds → Covers (x :: xs) ds

section

variable {δ σ : Type} [Executor σ] (engine : SpecOptions) {s s' : σ}

/-- Run one check that runs commands, and record it. -/
def runCheck (x : Sample) : Step Sink δ σ Unit := do
  let got ← runSample engine x
  record (if got = x.expected then none
    else some (x.name ++ ": got " ++ showCounts got ++ ", expected " ++ showCounts x.expected))

theorem runSamples_cons (x : Sample) (xs : List Sample) :
    (runSamples engine (x :: xs) : Step Sink δ σ Unit) = (do
      runCheck engine x
      runSamples engine xs) := by
  simp only [runSamples, runCheck, bind_assoc]

theorem checks_asked {x : Sample} {d : Demand} {tc : Testcase} {r : Execution} (hx : x.Asks d tc)
    (h : Executor.execute d.command d.stdin s = .ok r s') :
    Checks (runCheck engine x : Step Sink δ σ Unit) s s' 1 (if d.accepts r then 0 else 1) := by
  intro t out err ht
  obtain ⟨got, hgot, hpasses⟩ :=
    runSample_of_ok engine (s := Session.unlimited t out err s) hx h
  rw [runCheck, bind_of_ok hgot]
  by_cases haccepts : d.accepts r = true
  · rw [if_pos haccepts, if_pos (hpasses.2 haccepts)]
    exact checks_record_none s' t out err ht
  · rw [if_neg haccepts, if_neg (mt hpasses.1 haccepts)]
    exact checks_record_some _ s' t out err ht

theorem checks_quiet {x : Sample} (hx : x.Quiet) (s : σ) :
    Checks (runCheck engine x : Step Sink δ σ Unit) s s 1 0 := by
  intro t out err ht
  have hgot := runSample_of_quiet engine (s := Session.unlimited t out err s) hx
  rw [runCheck, bind_of_ok hgot, if_pos rfl]
  exact checks_record_none s t out err ht

theorem stops_asked {x : Sample} {d : Demand} {tc : Testcase} {e : RunError} (hx : x.Asks d tc)
    (h : Executor.execute d.command d.stdin s = .error e s') :
    Stops (runCheck engine x : Step Sink δ σ Unit) s s' (e.located d.check 1) := by
  intro t out err ht
  have herror := runSample_of_error engine (s := Session.unlimited t out err s) hx h
  refine ⟨[], t, by simp [Tagged], ?_⟩
  rw [runCheck, bind_of_error herror, blockOfLines_nil, String.append_empty]

/-- Where all calls are answered, a check fails exactly if its demand is not met. -/
theorem checks_runSamples {xs : List Sample} {ds : List Demand} {rs : List Execution}
    (hxs : Covers xs ds) (hrs : Replies ds s rs s') :
    Checks (runSamples engine xs : Step Sink δ σ Unit) s s' xs.length (unmet ds rs) := by
  induction hxs generalizing s rs with
  | nil =>
    cases hrs
    exact checks_pure _
  | @asks x d xs ds tc hx hxs ih =>
    obtain _ | ⟨hd, hrest⟩ := hrs
    rename_i s₁ r rs
    have hunmet : unmet (d :: ds) (r :: rs) = (if d.accepts r then 0 else 1) + unmet ds rs := by
      rw [unmet, List.zip_cons_cons, List.countP_cons, Nat.add_comm]
      cases d.accepts r <;> rfl
    rw [runSamples_cons, List.length_cons, Nat.add_comm, hunmet]
    exact (checks_asked engine hx hd).bind (ih hrest)
  | quiet hx hxs ih =>
    rw [runSamples_cons, List.length_cons, Nat.add_comm, ← Nat.zero_add (unmet _ rs)]
    exact (checks_quiet engine hx s).bind (ih hrs)

/-- The first call that fails stops the samples, and its error names the check. -/
theorem stops_runSamples {xs : List Sample} {ds before : List Demand} {d : Demand} {e : RunError}
    (hxs : Covers xs ds) (h : Fails ds s before d e s') :
    Stops (runSamples engine xs : Step Sink δ σ Unit) s s' (e.located d.check 1) := by
  obtain ⟨⟨after, hsplit⟩, rs, s₁, hrs, he⟩ := h
  induction hxs generalizing s before rs with
  | nil => simp at hsplit
  | @asks x d' xs ds tc hx hxs ih =>
    rw [runSamples_cons]
    cases hrs with
    | nil =>
      obtain ⟨rfl, rfl⟩ := List.cons.inj hsplit
      exact (stops_asked engine hx he).bind
    | cons hd hrest =>
      obtain ⟨rfl, rfl⟩ := List.cons.inj hsplit
      exact (checks_asked engine hx hd).stops (ih rfl _ hrest)
  | quiet hx hxs ih =>
    rw [runSamples_cons]
    exact (checks_quiet engine hx s).stops (ih hsplit rs hrs)

omit [Executor σ] in
theorem checks_runFactChecks {facts : List (String × Bool)} (h : ∀ fact ∈ facts, fact.2 = true)
    (s : σ) : Checks (runFactChecks facts : Step Sink δ σ Unit) s s facts.length 0 := by
  induction facts with
  | nil => exact checks_pure s
  | cons fact facts ih =>
    obtain ⟨name, passed⟩ := fact
    rw [List.forall_mem_cons] at h
    obtain rfl : passed = true := h.1
    rw [runFactChecks, List.length_cons, Nat.add_comm]
    exact (checks_record_none s).bind (ih h.2)

end

/-! ## The table of checks -/

theorem factChecks_hold : ∀ fact ∈ factChecks, fact.2 = true := by
  decide +kernel

/-- Without a filter a testcase asks for one execution. -/
theorem holds_iff_eq (tc : Testcase) (r : Execution) :
    tc.Holds false r ↔ r = ⟨tc.exitStatus, tc.stdout, tc.stderr⟩ := by
  obtain ⟨status, stdout, stderr⟩ := r
  simp [Testcase.Holds, shown_false]

/-- A sample that must pass accepts the answers that its testcase holds of, and one that must fail
accepts the others. -/
theorem accepts_iff {d : Demand} {x : Sample} {tc : Testcase} (passing : Bool)
    (hx : x.expected = (if passing then 0 else 1, 1))
    (h : ∀ r, d.accepts r = true ↔ (tc.Holds x.filterDebug r ↔ passing = true)) (r : Execution) :
    d.accepts r = true ↔
      ((if tc.Holds x.filterDebug r then 0 else 1, 1) : Nat × Nat) = x.expected := by
  rw [h, hx]
  by_cases hr : tc.Holds x.filterDebug r <;> cases passing <;> simp [hr]

/-- Each sample makes the call of one demand, except for the one with comments only and the one with
a malformed testcase. -/
theorem covers_samples : Covers samples demands := by
  refine .asks { command := "echo hello", stdout := ["hello"], line := 1 }
    ⟨by decide +kernel, rfl, rfl, rfl, rfl, rfl, accepts_iff true rfl fun r => ?_⟩ ?_
  · simp [holds_iff_eq, Testcase.defaultStatus]
  refine .asks { command := "exit 3", exitStatus := 3, line := 1 }
    ⟨by decide +kernel, rfl, rfl, rfl, rfl, rfl, accepts_iff true rfl fun r => ?_⟩ ?_
  · simp [holds_iff_eq]
  refine .asks { command := "echo wrong", stdout := ["right"], line := 1 }
    ⟨by decide +kernel, rfl, rfl, rfl, rfl, rfl, accepts_iff false rfl fun r => ?_⟩ ?_
  · simp [holds_iff_eq, Testcase.defaultStatus]
  refine .quiet ⟨by decide +kernel, by decide +kernel⟩ ?_
  refine .asks { command := "cat", stdin := ["in"], stdout := ["in"], line := 1 }
    ⟨by decide +kernel, rfl, rfl, rfl, rfl, rfl, accepts_iff true rfl fun r => ?_⟩ ?_
  · simp [holds_iff_eq, Testcase.defaultStatus]
  refine .quiet ⟨by decide +kernel, by decide +kernel⟩ ?_
  refine .asks { command := "echo '#n'; echo ok", stdout := ["ok"], line := 1 }
    ⟨by decide +kernel, rfl, rfl, rfl, rfl, rfl, accepts_iff true rfl fun r => ?_⟩ ?_
  · simp [Testcase.Holds, Testcase.defaultStatus]
  refine .asks { command := "echo '#n'; echo ok", stdout := ["ok"], line := 1 }
    ⟨by decide +kernel, rfl, rfl, rfl, rfl, rfl, accepts_iff false rfl fun r => ?_⟩ ?_
  · simp [holds_iff_eq, Testcase.defaultStatus]
  exact .nil

/-! ## The self-test -/

/-- Each check has options of its own. -/
theorem runSamples_engine {ω δ σ : Type} [Channel ω] [Executor σ] (engine engine' : SpecOptions)
    (xs : List Sample) :
    (runSamples engine xs : Step ω δ σ Unit) = runSamples engine' xs := by
  induction xs with
  | nil => rfl
  | cons x xs ih =>
    have hsample : (runSample engine x : Step ω δ σ (Nat × Nat)) = runSample engine' x := rfl
    simp only [runSamples, ih, hsample]

theorem runWith_engine {ω δ σ : Type} [Channel ω] [Executor σ] (engine engine' : SpecOptions)
    (verbose : Bool) : (runWith engine verbose : Running ω δ σ Bool) = runWith engine' verbose := by
  unfold runWith steps
  rw [runSamples_engine engine engine']

/-! ## The executor behind a logbook -/

section

variable {ω δ σ σ' : Type} {h : σ → σ'}

/-- A session, its executor seen through `h`. -/
def mapHost (h : σ → σ') (s : Session ω δ σ) : Session ω δ σ' :=
  ⟨s.report, s.diagnostics, h s.host⟩

/-- What is done to the report does not touch the executor. -/
theorem mirrors_reporting {α : Type} (h : σ → σ') (action : Reporting ω α) :
    Mirrors (mapHost h) (Session.reporting action : Step ω δ σ α) (Session.reporting action) := by
  intro s
  unfold Session.reporting mapHost
  cases action s.report <;> rfl

theorem mirrors_runFactChecks [Channel ω] (h : σ → σ') (facts : List (String × Bool)) :
    Mirrors (mapHost h) (runFactChecks facts : Step ω δ σ Unit) (runFactChecks facts) := by
  induction facts with
  | nil => exact .pure _ ()
  | cons fact rest ih => exact (mirrors_reporting h _).bind fun _ => ih

variable [Executor σ] [Executor σ'] (hexecute : ExecutesAlike h) (engine : SpecOptions)
include hexecute

theorem mirrors_runSample (x : Sample) :
    Mirrors (mapHost h) (runSample engine x : Step ω δ σ (Nat × Nat)) (runSample engine x) := by
  intro s
  have hrun : seen (Console.map id id h) (runSpec (x.options engine) x.name (.ofString x.spec)
      ⟨Sink.unlimited, Sink.unlimited, s.host⟩) =
      runSpec (x.options engine) x.name (.ofString x.spec)
        ⟨Sink.unlimited, Sink.unlimited, h s.host⟩ :=
    Alike.runSpec putsAlike_id putsAlike_id hexecute _ _ ⟨rfl, rfl, fun _ => rfl⟩ _
  unfold runSample mapHost
  simp only [← hrun]
  cases runSpec (x.options engine) x.name (.ofString x.spec)
    ⟨Sink.unlimited, Sink.unlimited, s.host⟩ <;> rfl

variable [Channel ω]

theorem mirrors_runSamples (xs : List Sample) :
    Mirrors (mapHost h) (runSamples engine xs : Step ω δ σ Unit) (runSamples engine xs) := by
  induction xs with
  | nil => exact .pure _ ()
  | cons x xs ih =>
    exact (mirrors_runSample hexecute engine x).bind fun _ =>
      (mirrors_reporting h _).bind fun _ => ih

theorem mirrors_steps :
    Mirrors (mapHost h) (steps engine : Step ω δ σ Bool) (steps engine) := by
  refine (mirrors_runFactChecks h factChecks).bind fun _ => ?_
  refine (mirrors_runSamples hexecute engine samples).bind fun _ => ?_
  exact (mirrors_reporting h Report.summary).bind fun _ _ => rfl

/-- The self-test sees nothing of an executor but its answers. -/
theorem mirrors_runWith (verbose : Bool) :
    Mirrors (Console.map id id h) (runWith engine verbose : Running ω δ σ Bool)
      (runWith engine verbose) := by
  intro c
  have hsteps := mirrors_steps hexecute engine
    (⟨.start "selftest" verbose c.report, c.diagnostics, c.host⟩ : Session ω δ σ)
  unfold runWith Console.map
  simp only [mapHost] at hsteps
  simp only [id, ← hsteps]
  cases steps engine (⟨.start "selftest" verbose c.report, c.diagnostics, c.host⟩ : Session ω δ σ)
    <;> rfl

end

/-- The last line of the self-test, where so many demands are not met. -/
def lastLine (failures : Nat) : String :=
  if failures = 0 then "selftest: OK (14 passed)"
  else "selftest: FAIL (" ++ toString failures ++ "/14 failed)"

section

variable {δ σ : Type} [Executor σ] (engine : SpecOptions) (verbose : Bool) (out : String) (err : δ)
  {s s' : σ}

/-- Run all checks. -/
def runChecks : Step Sink δ σ Unit := do
  runFactChecks factChecks
  runSamples engine samples

theorem steps_eq : (steps engine : Step Sink δ σ Bool) = (do
    runChecks engine
    Session.reporting Report.summary
    return (← get).report.tally.failures = 0) := by
  simp only [steps, runChecks, bind_assoc]

omit [Executor σ] in
theorem summary_countsAfter (failures : Nat) :
    (countsAfter (.start "selftest" verbose) 14 failures).summary = lastLine failures := by
  have htotal : (countsAfter (.start "selftest" verbose) 14 failures).results = (failures, 14) := by
    rw [Tally.results, countsAfter]
    simp [Tally.start]
  have hlabel : (countsAfter (.start "selftest" verbose) 14 failures).label = "selftest" := rfl
  rw [Tally.summary, htotal, hlabel, verdict, lastLine]
  by_cases h : failures = 0
  · rw [if_pos h, if_pos h]
    show "selftest" ++ ": " ++ ("OK (" ++ toString 14 ++ " passed)") = "selftest: OK (14 passed)"
    decide +kernel
  · rw [if_neg h, if_neg h, ← String.toList_inj]
    simp only [String.toList_append, List.append_assoc]
    rfl

/-- Where all calls are answered, the self-test counts the demands that are not met. -/
theorem runWith_of_replies {rs : List Execution} (h : Replies demands s rs s') :
    ∃ rows, Tagged "selftest" rows ∧
      runWith engine verbose ⟨(⟨out, none⟩ : Sink), err, s⟩ =
        .ok (unmet demands rs = 0)
          ⟨⟨out ++ blockOfLines (rows ++ [lastLine (unmet demands rs)]), none⟩, err, s'⟩ := by
  have hchecks : Checks (runChecks engine : Step Sink δ σ Unit) s s' 14 (unmet demands rs) := by
    rw [← Nat.zero_add (unmet demands rs)]
    exact (checks_runFactChecks factChecks_hold s).bind
      (checks_runSamples engine covers_samples h)
  obtain ⟨rows, hrows, hrun⟩ := hchecks (.start "selftest" verbose) out err rfl
  have hsummary := Session.reporting_unlimited
    (Report.summary_unlimited (countsAfter (.start "selftest" verbose) 14 (unmet demands rs))
      (out ++ blockOfLines rows)) err s'
  rw [summary_countsAfter, String.append_assoc, ← blockOfLines_append] at hsummary
  have hsteps : steps engine ⟨.start "selftest" verbose (⟨out, none⟩ : Sink), err, s⟩ =
      .ok (0 + unmet demands rs = 0)
        (Session.unlimited (countsAfter (.start "selftest" verbose) 14 (unmet demands rs))
          (out ++ blockOfLines (rows ++ [lastLine (unmet demands rs)])) err s') := by
    rw [steps_eq]
    exact (bind_of_ok hrun).trans (bind_of_ok hsummary)
  refine ⟨rows, hrows, ?_⟩
  rw [Nat.zero_add] at hsteps
  rw [runWith, hsteps]

/-- The first call that fails stops the self-test. -/
theorem runWith_of_fails {before : List Demand} {d : Demand} {e : RunError}
    (h : Fails demands s before d e s') :
    ∃ rows, Tagged "selftest" rows ∧
      runWith engine verbose ⟨(⟨out, none⟩ : Sink), err, s⟩ =
        .error (e.located d.check 1) ⟨⟨out ++ blockOfLines rows, none⟩, err, s'⟩ := by
  have hstops : Stops (runChecks engine : Step Sink δ σ Unit) s s' (e.located d.check 1) :=
    (checks_runFactChecks factChecks_hold s).stops (stops_runSamples engine covers_samples h)
  obtain ⟨rows, t', hrows, hrun⟩ := hstops (.start "selftest" verbose) out err rfl
  have hsteps : steps engine ⟨.start "selftest" verbose (⟨out, none⟩ : Sink), err, s⟩ =
      .error (e.located d.check 1) (Session.unlimited t' (out ++ blockOfLines rows) err s') := by
    rw [steps_eq]
    exact bind_of_error hrun
  exact ⟨rows, hrows, by rw [runWith, hsteps]⟩

omit [Executor σ] in
/-- No line about a check is the last line. -/
theorem lastLine_not_mem {rows : List String} (h : Tagged "selftest" rows) (failures : Nat) :
    lastLine failures ∉ rows := by
  intro hmem
  obtain ⟨k, text, heq⟩ := h _ hmem
  have hcolon : (lastLine failures).toList[8]? = some ':' := by
    unfold lastLine
    split <;> simp
  have hblank : (Report.tagged "selftest" k text).toList[8]? = some ' ' := by
    simp [Report.tagged]
  rw [heq, hblank] at hcolon
  simp at hcolon

theorem unmet_eq_zero {ds : List Demand} {rs : List Execution} :
    unmet ds rs = 0 ↔ ∀ p ∈ ds.zip rs, p.1.accepts p.2 = true := by
  simp [unmet, List.countP_eq_zero]

/-- The self-test passes exactly if all calls are answered and all demands are met. -/
theorem exists_runWith_iff :
    (∃ c, runWith engine verbose ⟨(⟨out, none⟩ : Sink), err, s⟩ = .ok true c) ↔
      ∃ rs s', Replies demands s rs s' ∧ ∀ p ∈ demands.zip rs, p.1.accepts p.2 = true := by
  constructor
  · rintro ⟨c, hc⟩
    rcases replies_or_fails demands s with ⟨rs, s', hrs⟩ | ⟨before, d, e, s', hfails⟩
    · obtain ⟨rows, -, hrun⟩ := runWith_of_replies engine verbose out err hrs
      have hmet : decide (unmet demands rs = 0) = true := by
        rw [hrun] at hc
        exact (EStateM.Result.ok.inj hc).1
      exact ⟨rs, s', hrs, unmet_eq_zero.1 (of_decide_eq_true hmet)⟩
    · obtain ⟨rows, -, hrun⟩ := runWith_of_fails engine verbose out err hfails
      rw [hrun] at hc
      cases hc
  · rintro ⟨rs, s', hrs, hmet⟩
    obtain ⟨rows, -, hrun⟩ := runWith_of_replies engine verbose out err hrs
    rw [unmet_eq_zero.2 hmet] at hrun
    exact ⟨_, hrun⟩

/-- The calls that the self-test makes, as a logbook has them. -/
def callsOfSelfTest (s : σ) : List (String × List String) :=
  (finalState (runWith engine verbose
    ⟨(⟨out, none⟩ : Sink), err, (⟨s, []⟩ : Logbook σ)⟩)).host.calls

/-- **What the self-test certifies.** The options of the engine make no difference, and a logbook
does not either. The third part says when the self-test passes. The last part says how it ends: with
its last line after the calls of all demands, or at the first of these calls that fails, with the
error of that call and without the last line. -/
theorem runWith_certifies (s : σ) :
    (∀ engine', runWith engine' verbose ⟨(⟨out, none⟩ : Sink), err, s⟩ =
      runWith engine verbose ⟨(⟨out, none⟩ : Sink), err, s⟩) ∧
    seen (Console.map id id Logbook.host)
        (runWith engine verbose ⟨(⟨out, none⟩ : Sink), err, (⟨s, []⟩ : Logbook σ)⟩) =
      runWith engine verbose ⟨(⟨out, none⟩ : Sink), err, s⟩ ∧
    ((∃ c, runWith engine verbose ⟨(⟨out, none⟩ : Sink), err, s⟩ = .ok true c) ↔
      ∃ rs s', Replies demands s rs s' ∧ ∀ p ∈ demands.zip rs, p.1.accepts p.2 = true) ∧
    ((∃ rs s' rows, Replies demands s rs s' ∧ Tagged "selftest" rows ∧
        runWith engine verbose ⟨(⟨out, none⟩ : Sink), err, s⟩ =
          .ok (unmet demands rs = 0)
            ⟨⟨out ++ blockOfLines (rows ++ [lastLine (unmet demands rs)]), none⟩, err, s'⟩ ∧
        callsOfSelfTest engine verbose out err s = demands.map Demand.call) ∨
      ∃ before d e s' rows, Fails demands s before d e s' ∧ Tagged "selftest" rows ∧
        (∀ failures, lastLine failures ∉ rows) ∧
        runWith engine verbose ⟨(⟨out, none⟩ : Sink), err, s⟩ =
          .error { e with file := some d.check, line := some 1 }
            ⟨⟨out ++ blockOfLines rows, none⟩, err, s'⟩ ∧
        callsOfSelfTest engine verbose out err s = (before ++ [d]).map Demand.call) := by
  refine ⟨fun engine' => ?_, ?_, exists_runWith_iff engine verbose out err, ?_⟩
  · rw [runWith_engine engine' engine]
  · exact mirrors_runWith executesAlike_logbook engine verbose _
  rcases replies_or_fails demands s with ⟨rs, s', hrs⟩ | ⟨before, d, e, s', hfails⟩
  · obtain ⟨rows, hrows, hrun⟩ := runWith_of_replies engine verbose out err hrs
    obtain ⟨_, -, hcalls⟩ := runWith_of_replies engine verbose out err (hrs.logbook [])
    refine .inl ⟨rs, s', rows, hrs, hrows, hrun, ?_⟩
    rw [callsOfSelfTest, hcalls]
    rfl
  · obtain ⟨rows, hrows, hrun⟩ := runWith_of_fails engine verbose out err hfails
    obtain ⟨_, -, hcalls⟩ := runWith_of_fails engine verbose out err hfails.logbook
    refine .inr ⟨before, d, e, s', rows, hfails, hrows, lastLine_not_mem hrows, hrun, ?_⟩
    rw [callsOfSelfTest, hcalls]
    rfl

end

/-! ## An executor that passes -/

/-- An executor that knows the answers by rote. -/
structure Rote where
  deriving DecidableEq, Repr

instance : Executor Rote where
  execute command stdin := pure <|
    match command with
    | "echo hello" => ⟨0, ["hello"], []⟩
    | "exit 3" => ⟨3, [], []⟩
    | "echo wrong" => ⟨0, ["wrong"], []⟩
    | "cat" => ⟨0, stdin, []⟩
    | _ => ⟨0, ["#n", "ok"], []⟩

/-- All demands are met, although the engine would filter debug lines. -/
example :
    seen (fun c => c.report.text)
      (runWith { filterDebug := true } false ⟨Sink.unlimited, (), Rote.mk⟩) =
      .ok true "selftest: OK (14 passed)\n" := by
  decide +kernel

end CommandSpec.SelfTest
