import CommandSpec.Proofs.Session.Account
import CommandSpec.Proofs.Session.Steps
import CommandSpec.Proofs.Spec.Segmentation

/-!
# A session that is never refused

At a channel that takes everything, each step of a session appends what the account says of it.

**Theorem (`takeEach_close_unlimited`).** A session whose channels never refuse takes further lines
and closes exactly as the account of the stretches that its draft cuts them into.

The proof is an induction on the lines. A line that is no command is echoed and told to the
diagnostics at once. A `!` line, like the end of the spec, settles the testcase the draft holds, so
that the account of a testcase always follows the echoes of its own stretch.
-/

namespace CommandSpec.Session

variable {δ σ : Type} {opts : SpecOptions} {t : Tally} {out : String} {host host' : σ}

/-- A session with a report that is never refused. -/
abbrev unlimited (t : Tally) (out : String) (err : δ) (host : σ) : Session Sink δ σ :=
  ⟨⟨t, ⟨out, none⟩⟩, err, host⟩

theorem reporting_unlimited {α : Type} {action : Reporting Sink α} {a : α} {t' : Tally}
    {out' : String} (h : action ⟨t, ⟨out, none⟩⟩ = .ok a ⟨t', ⟨out', none⟩⟩) (err : δ) (host : σ) :
    reporting action (unlimited t out err host) = .ok a (unlimited t' out' err host) := by
  simp [reporting, h]

theorem diagnose_unlimited (err text : String) :
    diagnose text (unlimited t out (⟨err, none⟩ : Sink) host) =
      .ok () (unlimited t out ⟨err ++ blockOfLines [text], none⟩ host) := by
  rw [blockOfLines_singleton]
  rfl

theorem announce_unlimited (tc : Testcase) (err : δ) :
    announce opts tc (unlimited t out err host) =
      .ok () (unlimited t (out ++ blockOfLines (announcement opts t.label t.index tc)) err
        host) := by
  unfold announce announcement
  cases opts.verbose with
  | true => exact reporting_unlimited (Report.message_unlimited _ _ _) _ _
  | false => simp [pure, EStateM.pure]

theorem echo_unlimited (l : SpecLine) (err : δ) :
    echo opts l (unlimited t out err host) =
      .ok () (unlimited t (out ++ blockOfLines (echoes opts [l])) err host) := by
  unfold echo
  by_cases h : (opts.verbose && l.directive = .blank) = true
  · rw [if_pos h, reporting_unlimited (Report.line_unlimited _ _ _) _ _]
    simp_all [echoes]
  · rw [if_neg h]
    simp_all [echoes, pure, EStateM.pure]

theorem conclude_unlimited (err : δ) :
    conclude (unlimited t out err host) =
      .ok t.results (unlimited t (out ++ blockOfLines [t.summary]) err host) := by
  unfold conclude
  rw [bind_of_ok (reporting_unlimited (Report.summary_unlimited _ _) _ _)]
  rfl

variable [Executor σ]

/-! ## Testcases -/

/-- The marks of the three checks decide how a testcase is closed. -/
theorem closed_of_marks (hf : t.failed = false) (a b c : Bool) :
    (((t.mark a).mark b).mark c).next = t.closed (a && b && c) := by
  cases a <;> cases b <;> cases c <;>
    simp [Tally.mark, Tally.markFailed, Tally.next, Tally.closed, hf]

theorem closing?_of_marks (hf : t.failed = false) (a b c : Bool) :
    (((t.mark a).mark b).mark c).closing? =
      if a && b && c then if t.verbose then some "ok" else none else some "FAILED" := by
  cases a <;> cases b <;> cases c <;> simp [Tally.closing?, hf]

theorem examine_of_ok {tc : Testcase} {r : Execution}
    (hr : Executor.execute tc.command tc.stdin host = .ok r host') (hf : t.failed = false)
    (err : δ) :
    examine opts tc (unlimited t out err host) =
      .ok () (unlimited (t.closed (tc.Holds opts.filterDebug r))
        (out ++ blockOfLines (
          Report.channelRows t.label t.index opts.filterDebug "stdout" tc.command r.stdout
            tc.stdout ++
          Report.channelRows t.label t.index opts.filterDebug "stderr" tc.command r.stderr
            tc.stderr ++
          Report.statusRows t.label t.index tc.command r.exitStatus tc.exitStatus ++
          (if tc.Holds opts.filterDebug r then
            if t.verbose then [Report.tagged t.label t.index "ok"] else []
          else [Report.tagged t.label t.index "FAILED"]))) err host') := by
  have hexecute : execute tc.command tc.stdin tc.line (unlimited t out err host) =
      .ok r (unlimited t out err host') := by
    simp [execute, hr]
  have hholds : tc.Holds opts.filterDebug r ↔
      (Report.agrees opts.filterDebug r.stdout tc.stdout &&
        Report.agrees opts.filterDebug r.stderr tc.stderr &&
        decide (r.exitStatus = tc.exitStatus)) = true := by
    simpa [Testcase.Holds, Report.agrees_iff] using and_comm
  unfold examine
  rw [bind_of_ok hexecute,
    bind_of_ok (reporting_unlimited (Report.check_unlimited _ _ _ _ _ _ _) _ _),
    bind_of_ok (reporting_unlimited (Report.check_unlimited _ _ _ _ _ _ _) _ _),
    bind_of_ok (reporting_unlimited (Report.checkExitStatus_unlimited _ _ _ _ _) _ _),
    reporting_unlimited (Report.advance_unlimited _ _), closed_of_marks hf, closing?_of_marks hf]
  simp only [hholds, Tally.label_mark, Tally.index_mark, String.append_assoc,
    ← blockOfLines_append, List.append_assoc]
  generalize (Report.agrees opts.filterDebug r.stdout tc.stdout &&
    Report.agrees opts.filterDebug r.stderr tc.stderr &&
      decide (r.exitStatus = tc.exitStatus)) = holds
  cases holds <;> cases t.verbose <;> simp

/-- A testcase that is run is announced, then each check adds its rows and may mark the testcase,
and the mark decides how it is closed. -/
theorem perform_of_ok {tc : Testcase} {r : Execution} (htc : tc.malformed = false)
    (hr : Executor.execute tc.command tc.stdin host = .ok r host') (hf : t.failed = false)
    (hv : t.verbose = opts.verbose) (err : δ) :
    perform opts tc (unlimited t out err host) =
      .ok () (unlimited (t.closed (tc.Holds opts.filterDebug r))
        (out ++ blockOfLines (caseReport opts t.label t.index tc (some r))) err host') := by
  rw [perform_of_wellFormed htc, bind_of_ok (announce_unlimited tc err), examine_of_ok hr hf,
    String.append_assoc, ← blockOfLines_append, hv]
  simp only [caseReport, announcement, List.append_assoc]

/-- A testcase whose command cannot be started is announced, and the error is placed at it. -/
theorem perform_of_error {tc : Testcase} {e : RunError} (htc : tc.malformed = false)
    (he : Executor.execute tc.command tc.stdin host = .error e host') (err : δ) :
    perform opts tc (unlimited t out err host) =
      .error (e.located t.label tc.line)
        (unlimited t (out ++ blockOfLines (announcement opts t.label t.index tc)) err host') := by
  have hexecute (out : String) : execute tc.command tc.stdin tc.line (unlimited t out err host) =
      .error (e.located t.label tc.line) (unlimited t out err host') := by
    simp [execute, he]
  rw [perform_of_wellFormed htc, bind_of_ok (announce_unlimited tc err)]
  exact bind_of_error (hexecute _)

theorem perform_unlimited {tc : Testcase} {a : Option Execution} (h : tc.Answered host a host')
    (hf : t.failed = false) (hv : t.verbose = opts.verbose) (err : δ) :
    perform opts tc (unlimited t out err host) =
      .ok () (unlimited (t.closed (tc.passes opts.filterDebug a))
        (out ++ blockOfLines (caseReport opts t.label t.index tc a)) err host') := by
  cases a with
  | none =>
    obtain ⟨htc, rfl⟩ := h
    rw [perform_of_malformed htc,
      bind_of_ok (reporting_unlimited (Report.fail_unlimited _ _ _) _ _),
      reporting_unlimited (Report.advance_unlimited _ _), String.append_assoc,
      ← blockOfLines_append]
    rfl
  | some r => exact perform_of_ok h.1 h.2 hf hv err

/-! ## Lines -/

theorem settle_unlimited {d : Draft} {as : List (Option Execution)}
    (h : Answered d.pending?.toList host as host') (hf : t.failed = false)
    (hv : t.verbose = opts.verbose) (err : δ) :
    settle opts d (unlimited t out err host) =
      .ok () (unlimited (t.closedAll opts.filterDebug d.pending?.toList as)
        (out ++ blockOfLines
          (account opts t.label t.index [(⟨[], d.pending?⟩ : Stretch SpecLine)] as)) err
          host') := by
  unfold settle
  cases hp : d.pending? with
  | none =>
    rw [hp] at h
    cases h
    simp [account, echoes, Tally.closedAll_nil hf, pure, EStateM.pure]
  | some tc =>
    rw [hp] at h
    obtain _ | ⟨htc, hrest⟩ := h
    cases hrest
    simp only [perform_unlimited htc hf hv, Option.toList_some, Tally.closedAll_cons,
      Tally.closedAll_nil (t := t.closed _) rfl]
    simp [account, echoes]

theorem handle_unlimited {taken : Taken} (h : taken.closed? = none) (err : String) :
    handle opts taken (unlimited t out (⟨err, none⟩ : Sink) host) =
      .ok () (unlimited t out
        ⟨err ++ blockOfLines ([taken].filterMap (Taken.diagnostic? t.label)), none⟩ host) := by
  cases taken with
  | inside => simp [handle, List.filterMap_cons, Taken.diagnostic?, pure, EStateM.pure]
  | closed tc => simp [Taken.closed?] at h
  | rejected e => exact diagnose_unlimited _ _

/-- A line that is no command is echoed, if it is blank, and told to the diagnostics, if it is
rejected. -/
theorem takeLine_unlimited {l : SpecLine} (hl : l.directive.isCommand = false) (d : Draft)
    (err : String) :
    takeLine opts d l (unlimited t out (⟨err, none⟩ : Sink) host) =
      .ok (d.take l.directive).2 (unlimited t (out ++ blockOfLines (echoes opts [l]))
        ⟨err ++ blockOfLines ([(d.take l.directive).1].filterMap (Taken.diagnostic? t.label)), none⟩
        host) := by
  rw [takeLine_eq, bind_of_ok (handle_unlimited (Draft.closed?_take hl d) err),
    bind_of_ok (echo_unlimited l _)]
  rfl

/-- A `!` line is never rejected. -/
theorem diagnostics_cons_command {x : Directive} {text : String} (h : x = .command text) (d : Draft)
    (xs : List Directive) (label : String) :
    (d.answers (x :: xs)).filterMap (Taken.diagnostic? label) =
      ((⟨.start text (d.line + 1), true, d.line + 1⟩ : Draft).answers xs).filterMap
        (Taken.diagnostic? label) := by
  rw [h, Draft.answers, Draft.take_command]
  cases d.pending? <;> rfl

/-- **The account of a spec.** A session that is never refused takes further lines and closes as the
account of its stretches says, given the answers to their testcases. -/
theorem takeEach_close_unlimited (d : Draft) (ls : List SpecLine) (err : String)
    {as : List (Option Execution)} (h : Answered (d.due SpecLine.directive ls) host as host')
    (hf : t.failed = false) (hv : t.verbose = opts.verbose) :
    let t' := t.closedAll opts.filterDebug (d.due SpecLine.directive ls) as
    (takeEach opts d ls >>= close opts) (unlimited t out (⟨err, none⟩ : Sink) host) =
      .ok t'.results (unlimited t'
        (out ++ blockOfLines (account opts t.label t.index (d.stretches SpecLine.directive ls) as ++
          [t'.summary]))
        ⟨err ++ blockOfLines ((d.answers (ls.map SpecLine.directive)).filterMap
          (Taken.diagnostic? t.label)), none⟩ host') := by
  induction ls using command_induction SpecLine.directive generalizing d t out err host as with
  | nil =>
    rw [Draft.due_nil] at h ⊢
    rw [takeEach, pure_bind, close_eq, bind_of_ok (settle_unlimited h hf hv _), conclude_unlimited,
      String.append_assoc, ← blockOfLines_append]
    simp [Draft.answers, Draft.stretches]
  | command l ls text htext ih =>
    rw [Draft.due_cons_command htext] at h ⊢
    obtain ⟨as₁, host₁, as₂, rfl, h₁, h₂⟩ := answered_append.1 h
    rw [takeEach, takeLine_command htext, bind_assoc, bind_assoc,
      bind_of_ok (settle_unlimited h₁ hf hv _)]
    simp only [pure_bind]
    rw [ih (t := t.closedAll opts.filterDebug d.pending?.toList as₁) _ _ h₂ rfl hv,
      ← Tally.closedAll_append _ _ h₁.length_eq, Draft.stretches_cons_command htext,
      account_cons_nil _ _ _ _ _ h₁.length_eq, List.map_cons, diagnostics_cons_command htext]
    simp only [Tally.closedAll, String.append_assoc, ← blockOfLines_append, List.append_assoc]
  | other l ls hl ih =>
    rw [Draft.due_cons hl] at h ⊢
    rw [takeEach, bind_assoc, bind_of_ok (takeLine_unlimited hl d err), ih _ _ h hf hv,
      Draft.stretches_cons hl,
      account_modifyHead _ _ _ _ (Draft.stretches_ne_nil _ _ _)]
    simp only [String.append_assoc, ← blockOfLines_append, List.append_assoc, List.map_cons,
      Draft.answers, ← List.filterMap_append, List.singleton_append]

end CommandSpec.Session
