import CommandSpec.Proofs.Session.Limits
import CommandSpec.Proofs.Session.StartFailure

/-!
# Specs that cannot be read to their end

A source may fail after the first `n` bytes of a spec. The lines that have their newlines among
these bytes are taken like those of the whole spec; a line that was cut off is not, and the testcase
that is pending is not run.

**Theorem (`runSpec_failing`).** Unless one of the commands cannot be started, the run stops with
the fault of the source, and it has run the testcases that are closed by a `!` line with its newline
among the first `n` bytes (`closedWithin`). What it wrote and what it called is in any case how the
run of the whole spec begins.

Both runs start with the same lines, so that they part where the source fails. There the session
holds what these lines make of it (`takeEach_unlimited`), and what a session wrote stays written
(`Follows.begins_texts`).
-/

namespace CommandSpec

/-- How many lines of a spec have their newlines among its first `n` bytes. -/
def linesWithin (bytes : List UInt8) (n : Nat) : Nat :=
  (bytes.take n).count Text.newline

/-- The testcases of a spec after which there is a `!` line with its newline among the first `n`
bytes. -/
def closedWithin (bytes : List UInt8) (n : Nat) : List Testcase :=
  (testcases SpecLine.directive (linesOfSpec bytes)).filter fun tc =>
    (((linesOfSpec bytes).take (linesWithin bytes n)).drop tc.line).any fun l =>
      l.directive.isCommand

/-- The commands that a run of a spec has the host run, whose source fails after some bytes. -/
def callsOfFailing {σ : Type} [Executor σ] (opts : SpecOptions) (label : String)
    (bytes : List UInt8) (fault : Fault) (host : σ) : List (String × List String) :=
  (finalState (runSpec opts label (.failing bytes fault)
    (.unlimited "" "" (⟨host, []⟩ : Logbook σ)))).host.calls

theorem closes_linesWithin (bytes : List UInt8) (n : Nat) :
    Draft.empty.closes (((linesOfSpec bytes).take (linesWithin bytes n)).map SpecLine.directive) =
      closedWithin bytes n :=
  Draft.closes_take _ _

/-- The closed lines of the first bytes are the first lines of the spec. -/
theorem map_splitClosed_take (bytes : List UInt8) (n : Nat) :
    (Text.splitClosed (bytes.take n)).1.map SpecLine.ofBytes =
      (linesOfSpec bytes).take (linesWithin bytes n) := by
  rw [linesOfSpec, ← List.map_take, linesWithin, Text.take_physicalLines]

/-! ## Where the source fails -/

namespace Session

section

variable {ω δ σ : Type} [Channel ω] [Channel δ] [Executor σ]

/-- A session takes the closed lines and asks for more, which fails. -/
theorem run_failing (opts : SpecOptions) (bytes : List UInt8) (fault : Fault) :
    (run opts (.failing bytes fault) : Step ω δ σ (Nat × Nat)) = (do
      let d ← takeEach opts .empty ((Text.splitClosed bytes).1.map .ofBytes)
      let more ← refill (.failing bytes fault)
      let d ← resume opts (.failing bytes fault) 0 (Text.splitClosed bytes).2 more d
      settle opts d
      conclude) := by
  rw [run_eq]
  show takeAll opts (.failing bytes fault) 1 bytes .empty >>= _ = _
  rw [takeAll_succ, bind_assoc]
  simp only [bind_assoc]

variable {opts : SpecOptions} {bytes : List UInt8} {taken : List SpecLine}
  (htaken : (Text.splitClosed bytes).1.map .ofBytes = taken) {s s' : Session ω δ σ}
include htaken

theorem run_failing_of_ok {d : Draft} (fault : Fault)
    (h : takeEach opts .empty taken s = .ok d s') :
    run opts (.failing bytes fault) s =
      .error ((RunError.ofFault fault).inFile s'.report.tally.label) s' := by
  rw [run_failing, htaken, bind_of_ok h]
  exact bind_of_error rfl

theorem run_failing_of_error {e : RunError} (fault : Fault)
    (h : takeEach opts .empty taken s = .error e s') :
    run opts (.failing bytes fault) s = .error e s' := by
  rw [run_failing, htaken, bind_of_error h]

end

/-! ## What was written stays written -/

/-- What was written before a step that follows a course begins what is written after it. -/
theorem Follows.begins_texts {α σ : Type} [Executor σ] {x : ∀ S : Setting, S.Step α}
    (hx : Follows x) (refill : EStateM Fault σ (List UInt8)) (t : Tally) (out err : String)
    (host : σ) :
    let s := finalState (x (.sinks refill) (unlimited t out (⟨err, none⟩ : Sink) host))
    out.toList <+: s.report.out.text.toList ∧ err.toList <+: s.diagnostics.text.toList := by
  intro s
  obtain ⟨c, hc⟩ := hx t
  obtain ⟨log, result, -, hrun, -⟩ := run_sinks refill c out err host
  have hfinal : (⟨s.report.out, s.diagnostics, s.host⟩ : Console Sink Sink σ) =
      .unlimited (out ++ reportOf log) (err ++ diagnosticsOf log) (finalState result) := by
    have hsession := finalState_atConsole t (x (.sinks refill)) (⟨out, none⟩ : Sink)
      (⟨err, none⟩ : Sink) host
    rw [hc (.sinks refill)] at hsession
    exact hsession.symm.trans ((congrArg finalState hrun).trans (finalState_seen _ _))
  have hout : s.report.out.text = out ++ reportOf log := congrArg (fun c => c.report.text) hfinal
  have herr : s.diagnostics.text = err ++ diagnosticsOf log :=
    congrArg (fun c => c.diagnostics.text) hfinal
  rw [hout, herr, String.toList_append, String.toList_append]
  exact ⟨List.prefix_append _ _, List.prefix_append _ _⟩

/-- A testcase whose command cannot be started stops the session at the line that closes it. -/
theorem exists_takeEach_error {σ : Type} [Executor σ] {opts : SpecOptions} {t : Tally} {d : Draft}
    {before : List SpecLine} {l : SpecLine} {as : List (Option Execution)} {tc : Testcase}
    {e : RunError} {s s₁ s₂ : σ} (h : Answered (d.closes (before.map SpecLine.directive)) s as s₁)
    (hp : (d.after (before.map SpecLine.directive)).pending? = some tc)
    (hm : tc.malformed = false) (he : Executor.execute tc.command tc.stdin s₁ = .error e s₂)
    (hl : l.directive.isCommand = true) (rest : List SpecLine) (out err : String)
    (hf : t.failed = false) (hv : t.verbose = opts.verbose) :
    ∃ t' out' err',
      takeEach opts d (before ++ l :: rest) (unlimited t out (⟨err, none⟩ : Sink) s) =
        .error (e.located t.label tc.line) (unlimited t' out' (⟨err', none⟩ : Sink) s₂) := by
  rw [takeEach_append, bind_of_ok (takeEach_unlimited d before err h hf hv)]
  exact ⟨_, _, _, takeEach_of_error hl (settle_of_error hp hm he _) rest⟩

end Session

/-! ## The run of what was read -/

section

variable {σ : Type} [Executor σ] {bytes : List UInt8} {n : Nat} {s s₁ s₂ : σ}
  {as : List (Option Execution)} (opts : SpecOptions) (label : String)

theorem takeEach_linesWithin (h : Answered (closedWithin bytes n) s as s₁) (out err : String) :
    let taken := (linesOfSpec bytes).take (linesWithin bytes n)
    Session.takeEach opts .empty taken
        (Session.unlimited (.start label opts.verbose) out (⟨err, none⟩ : Sink) s) =
      .ok (Draft.empty.after (taken.map SpecLine.directive))
        (Session.unlimited
          ((Tally.start label opts.verbose).closedAll opts.filterDebug (closedWithin bytes n) as)
          (out ++ blockOfLines (account opts label 1 (openEnded (stretches SpecLine.directive taken))
            as))
          ⟨err ++ diagnosticsOfErrors label ((rejectionsOfSpec bytes).filter fun e =>
            e.line.any fun k => k ≤ linesWithin bytes n), none⟩ s₁) := by
  intro taken
  rw [← closes_linesWithin] at h
  rw [Session.takeEach_unlimited .empty taken err h rfl rfl, closes_linesWithin,
    Draft.stretches_empty, ← diagnostics_take]
  rfl

/-- The source fails after the testcases that are closed were run. -/
theorem runSpec_failing_of_answered (fault : Fault) (h : Answered (closedWithin bytes n) s as s₁)
    (out err : String) :
    runSpec opts label (.failing (bytes.take n) fault) (.unlimited out err s) =
      .error { kind := .io, message := fault.text, file := some label }
        (.unlimited
          (out ++ blockOfLines (account opts label 1
            (openEnded (stretches SpecLine.directive
              ((linesOfSpec bytes).take (linesWithin bytes n)))) as))
          (err ++ diagnosticsOfErrors label ((rejectionsOfSpec bytes).filter fun e =>
            e.line.any fun k => k ≤ linesWithin bytes n)) s₁) := by
  rw [Console.unlimited, runSpec_unlimited, Session.run_failing_of_ok (map_splitClosed_take bytes n)
    fault (takeEach_linesWithin opts label h out err)]
  rfl

theorem callsOfFailing_of_answered (fault : Fault) (h : Answered (closedWithin bytes n) s as s₁) :
    callsOfFailing opts label (bytes.take n) fault s = callsOfTestcases (closedWithin bytes n) := by
  rw [callsOfFailing, runSpec_failing_of_answered opts label fault (h.logbook [])]
  rfl

/-- Where the source fails, the run of the whole spec goes on with the other lines. -/
theorem runSpec_of_takeEach {taken rest : List SpecLine} {d : Draft} {s' : Session Sink Sink σ}
    {out err : String} (hls : linesOfSpec bytes = taken ++ rest)
    (h : Session.takeEach opts .empty taken
      (Session.unlimited (.start label opts.verbose) out (⟨err, none⟩ : Sink) s) = .ok d s') :
    runSpec opts label (.ofBytes bytes) (.unlimited out err s) =
      seen (fun s => ⟨s.report.out, s.diagnostics, s.host⟩)
        ((Session.takeEach opts d rest >>= Session.close opts) s') := by
  rw [Console.unlimited, runSpec_ofBytes, hls, Session.takeEach_append, bind_assoc, bind_of_ok h]

theorem follows_rest (d : Draft) (ls : List SpecLine) :
    Session.Follows fun S =>
      (Session.takeEach opts d ls >>= Session.close opts : S.Step (Nat × Nat)) :=
  (Session.follows_takeEach opts d ls).bind fun d => Session.follows_close opts d

theorem linesOfSpec_eq_append (bytes : List UInt8) (n : Nat) :
    linesOfSpec bytes = (linesOfSpec bytes).take (linesWithin bytes n) ++
      (linesOfSpec bytes).drop (linesWithin bytes n) :=
  (List.take_append_drop _ _).symm

/-- What was written where the source fails begins what is written of the whole spec. -/
theorem begins_texts_failing (fault : Fault) (h : Answered (closedWithin bytes n) s as s₁)
    (out err : String) :
    let failing := finalState
      (runSpec opts label (.failing (bytes.take n) fault) (.unlimited out err s))
    let whole := finalState (runSpec opts label (.ofBytes bytes) (.unlimited out err s))
    failing.report.text.toList <+: whole.report.text.toList ∧
      failing.diagnostics.text.toList <+: whole.diagnostics.text.toList := by
  intro failing whole
  -- Up to the fault both runs are one session, from which the run of the whole spec goes on.
  have htaken := takeEach_linesWithin opts label h out err
  have hwhole : whole = _ :=
    congrArg finalState (runSpec_of_takeEach opts label (linesOfSpec_eq_append bytes n) htaken)
  have hfailing : failing = _ :=
    congrArg finalState (runSpec_failing_of_answered opts label fault h out err)
  rw [hwhole, hfailing, finalState_seen]
  exact (follows_rest opts _ _).begins_texts (pure []) _ _ _ s₁

/-- What was called where the source fails begins what is called for the whole spec. -/
theorem begins_calls_failing (fault : Fault) (h : Answered (closedWithin bytes n) s as s₁) :
    callsOfFailing opts label (bytes.take n) fault s <+: callsOfSpec opts label bytes s := by
  have htaken := takeEach_linesWithin opts label (h.logbook []) "" ""
  have hwhole := congrArg finalState
    (runSpec_of_takeEach opts label (linesOfSpec_eq_append bytes n) htaken)
  rw [callsOfFailing, runSpec_failing_of_answered opts label fault (h.logbook []), callsOfSpec,
    hwhole, finalState_seen]
  exact (follows_rest opts _ _).keeps (S := .sinks (pure []))
    (P := fun book : Logbook σ => callsOfTestcases (closedWithin bytes n) <+: book.calls)
    begins_calls_execute (fun _ h => h) (List.prefix_refl _)

/-- If a command cannot be started before the source fails, the source does not matter. -/
theorem runSpec_failing_of_error (fault : Fault) {earlier later : List Testcase} {tc : Testcase}
    {e : RunError} (h : closedWithin bytes n = earlier ++ tc :: later)
    (ha : Answered earlier s as s₁) (hm : tc.malformed = false)
    (he : Executor.execute tc.command tc.stdin s₁ = .error e s₂) (out err : String) :
    ∃ c, c.host = s₂ ∧
      runSpec opts label (.failing (bytes.take n) fault) (.unlimited out err s) =
        .error (e.located label tc.line) c ∧
      runSpec opts label (.ofBytes bytes) (.unlimited out err s) =
        .error (e.located label tc.line) c := by
  rw [← closes_linesWithin] at h
  obtain ⟨before, l, rest, htaken, hl, hcloses, hpending⟩ := Draft.exists_split_of_closes h
  rw [← hcloses] at ha
  obtain ⟨t', out', err', hstop⟩ := Session.exists_takeEach_error ha hpending hm he hl rest out err
    (t := .start label opts.verbose) rfl rfl
  rw [← htaken] at hstop
  refine ⟨.unlimited out' err' s₂, rfl, ?_, ?_⟩
  · rw [Console.unlimited, runSpec_unlimited,
      Session.run_failing_of_error (map_splitClosed_take bytes n) fault hstop]
    rfl
  · rw [Console.unlimited, runSpec_ofBytes, linesOfSpec_eq_append bytes n, Session.takeEach_append,
      bind_assoc, bind_of_error hstop]
    rfl

theorem callsOfFailing_of_error (fault : Fault) {earlier later : List Testcase} {tc : Testcase}
    {e : RunError} (h : closedWithin bytes n = earlier ++ tc :: later)
    (ha : Answered earlier s as s₁) (hm : tc.malformed = false)
    (he : Executor.execute tc.command tc.stdin s₁ = .error e s₂) :
    callsOfFailing opts label (bytes.take n) fault s = callsOfTestcases earlier ++ [tc.call] ∧
      callsOfSpec opts label bytes s = callsOfTestcases earlier ++ [tc.call] := by
  obtain ⟨⟨_, _, book⟩, rfl, hfailing, hwhole⟩ := runSpec_failing_of_error opts label fault h
    (ha.logbook []) hm (execute_logbook_of_error he _) "" ""
  rw [callsOfFailing, callsOfSpec, hfailing, hwhole]
  exact ⟨rfl, rfl⟩

/-- **A spec that cannot be read to its end.** -/
theorem runSpec_failing (bytes : List UInt8) (n : Nat) (fault : Fault) (out err : String) (s : σ) :
    let ls := linesOfSpec bytes
    let m := linesWithin bytes n
    let closed := closedWithin bytes n
    let before := openEnded (stretches SpecLine.directive (ls.take m))
    let failing := runSpec opts label (.failing (bytes.take n) fault) (.unlimited out err s)
    let whole := runSpec opts label (.ofBytes bytes) (.unlimited out err s)
    let calls := callsOfFailing opts label (bytes.take n) fault s
    ((∃ as s', Answered closed s as s' ∧ before.filterMap Stretch.testcase? = closed ∧
        failing = .error { kind := .io, message := fault.text, file := some label }
          (.unlimited (out ++ blockOfLines (account opts label 1 before as))
            (err ++ diagnosticsOfErrors label ((rejectionsOfSpec bytes).filter fun e =>
              e.line.any fun k => k ≤ m)) s') ∧
        calls = callsOfTestcases closed) ∨
      ∃ earlier tc later as s₁ e s₂, closed = earlier ++ tc :: later ∧
        Answered earlier s as s₁ ∧ tc.malformed = false ∧
        Executor.execute tc.command tc.stdin s₁ = .error e s₂ ∧
        (∃ c, failing = .error (e.located label tc.line) c) ∧ failing = whole ∧
        calls = callsOfTestcases earlier ++ [tc.call]) ∧
    (finalState failing).report.text.toList <+: (finalState whole).report.text.toList ∧
    (finalState failing).diagnostics.text.toList <+: (finalState whole).diagnostics.text.toList ∧
    calls <+: callsOfSpec opts label bytes s := by
  intro ls m closed before failing whole calls
  rcases answered_or_exists_error closed s with
    ⟨as, s', h⟩ | ⟨earlier, tc, later, as, s₁, e, s₂, h, ha, hm, he⟩
  · have hbefore : before.filterMap Stretch.testcase? = closed :=
      (filterMap_openEnded_stretches _ _).trans (closes_linesWithin bytes n)
    obtain ⟨hreport, hdiagnostics⟩ := begins_texts_failing opts label fault h out err
    exact ⟨.inl ⟨as, s', h, hbefore, runSpec_failing_of_answered opts label fault h out err,
        callsOfFailing_of_answered opts label fault h⟩,
      hreport, hdiagnostics, begins_calls_failing opts label fault h⟩
  · obtain ⟨c, -, hfailing, hwhole⟩ := runSpec_failing_of_error opts label fault h ha hm he out err
    obtain ⟨hcalls, hcalls'⟩ := callsOfFailing_of_error opts label fault h ha hm he
    have hsame : failing = whole := hfailing.trans hwhole.symm
    refine ⟨.inr ⟨earlier, tc, later, as, s₁, e, s₂, h, ha, hm, he, ⟨c, hfailing⟩, hsame, hcalls⟩,
      ?_, ?_, ?_⟩
    · exact hsame ▸ List.prefix_refl _
    · exact hsame ▸ List.prefix_refl _
    · exact (hcalls.trans hcalls'.symm) ▸ List.prefix_refl _

end

/-- The `!` line that would close the second testcase is cut off before its newline. -/
example :
    callsOfFailing {} "t" ("!a\n!b\n!c\n".toUTF8.toList.take 8) ⟨"broken"⟩ (⟨3⟩ : Budget) =
        [("a", [])] ∧
      callsOfSpec {} "t" "!a\n!b\n!c\n".toUTF8.toList (⟨3⟩ : Budget) =
        [("a", []), ("b", []), ("c", [])] := by
  decide +kernel

end CommandSpec
