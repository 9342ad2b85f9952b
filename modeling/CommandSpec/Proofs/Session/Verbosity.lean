import CommandSpec.Proofs.Session.Halt
import CommandSpec.Proofs.Session.Logbook

/-!
# What the verbose option adds

**Theorem (`runSpec_verbose`).** A run with the verbose option and one without it do the same: they
return the same or stop with the same error, they run the same commands and tell the same
diagnostics. The report without the option is the report with it, less some of its *ornaments*: the
echoes of blank lines and comments, the announcements of testcases and the lines that say of a
testcase that it is ok.

Both runs are told by the same answers, as neither the testcases nor the commands depend on the
option. So their reports are two accounts of the same stretches, and they are compared stretch by
stretch (`pruned_account`), whether the last stretch is closed or the run halts in it.
-/

namespace CommandSpec

/-- The options with the verbose option. -/
abbrev SpecOptions.loud (filterDebug : Bool) : SpecOptions :=
  { filterDebug, verbose := true }

/-- The options without the verbose option. -/
abbrev SpecOptions.quiet (filterDebug : Bool) : SpecOptions :=
  { filterDebug, verbose := false }

/-! ## Pruning -/

/-- The second list is the first one less some elements, each of which is a `P`. -/
inductive Pruned {α : Type} (P : α → Prop) : List α → List α → Prop
  | nil : Pruned P [] []
  | keep {as bs : List α} (a : α) : Pruned P as bs → Pruned P (a :: as) (a :: bs)
  | drop {as bs : List α} {a : α} : P a → Pruned P as bs → Pruned P (a :: as) bs

namespace Pruned

variable {α : Type} {P : α → Prop} {as bs as' bs' : List α}

theorem refl (as : List α) : Pruned P as as := by
  induction as with
  | nil => exact .nil
  | cons a as ih => exact .keep a ih

theorem append (h : Pruned P as bs) (h' : Pruned P as' bs') :
    Pruned P (as ++ as') (bs ++ bs') := by
  induction h with
  | nil => exact h'
  | keep a _ ih => exact .keep a ih
  | drop ha _ ih => exact .drop ha ih

theorem of_forall (h : ∀ a ∈ as, P a) : Pruned P as [] := by
  induction as with
  | nil => exact .nil
  | cons a as ih =>
    rw [List.forall_mem_cons] at h
    exact .drop h.1 (ih h.2)

end Pruned

/-! ## Ornaments -/

/-- A line that the verbose option adds to the report of a spec with the given lines. -/
inductive Ornament (label : String) (ls : List SpecLine) : String → Prop
  /-- A blank line or a comment. -/
  | echo {l : SpecLine} : l ∈ ls → l.directive = .blank → Ornament label ls l.echo
  /-- The announcement of the testcase with the index `i`. -/
  | announced {i : Nat} {tc : Testcase} : (testcases SpecLine.directive ls)[i]? = some tc →
      Ornament label ls (Report.tagged label (1 + i) ("!" ++ tc.command))
  /-- The verdict on the testcase with the index `i`. -/
  | ok {i : Nat} {tc : Testcase} : (testcases SpecLine.directive ls)[i]? = some tc →
      Ornament label ls (Report.tagged label (1 + i) "ok")

/-! ## Two accounts -/

section

variable {P : String → Prop} {filterDebug : Bool} {label : String}

theorem pruned_echoes {ls : List SpecLine} (h : ∀ l ∈ ls, l.directive = .blank → P l.echo) :
    Pruned P (echoes (.loud filterDebug) ls) (echoes (.quiet filterDebug) ls) := by
  refine .of_forall fun line hline => ?_
  obtain ⟨l, hl, rfl⟩ := List.mem_map.1 hline
  rw [List.mem_filter, decide_eq_true_eq] at hl
  exact h l hl.1 hl.2

theorem pruned_announcement {k : Nat} {tc : Testcase}
    (h : P (Report.tagged label k ("!" ++ tc.command))) :
    Pruned P (announcement (.loud filterDebug) label k tc)
      (announcement (.quiet filterDebug) label k tc) :=
  .drop h .nil

/-- The rows that tell what was wrong with a testcase do not depend on the option. -/
theorem pruned_caseReport {k : Nat} {tc : Testcase}
    (hannounced : P (Report.tagged label k ("!" ++ tc.command)))
    (hok : P (Report.tagged label k "ok")) (a : Option Execution) :
    Pruned P (caseReport (.loud filterDebug) label k tc a)
      (caseReport (.quiet filterDebug) label k tc a) := by
  cases a with
  | none => exact .refl _
  | some r =>
    refine .append (.append (.append (.append ?_ (.refl _)) (.refl _)) (.refl _)) ?_
    · exact pruned_announcement hannounced
    · by_cases h : tc.Holds filterDebug r
      · rw [if_pos h, if_pos h]
        exact .drop hok .nil
      · rw [if_neg h, if_neg h]
        exact .refl _

/-- **Two accounts of the same stretches.** -/
theorem pruned_account {ss : List (Stretch SpecLine)} {k : Nat} (as : List (Option Execution))
    (hecho : ∀ l ∈ ss.flatMap Stretch.lines, l.directive = .blank → P l.echo)
    (hcase : ∀ i tc, (ss.filterMap Stretch.testcase?)[i]? = some tc →
      P (Report.tagged label (k + i) ("!" ++ tc.command)) ∧
        P (Report.tagged label (k + i) "ok")) :
    Pruned P (account (.loud filterDebug) label k ss as)
      (account (.quiet filterDebug) label k ss as) := by
  induction ss generalizing k as with
  | nil => exact .nil
  | cons s ss ih =>
    obtain ⟨ls, tc?⟩ := s
    rw [List.flatMap_cons, List.forall_mem_append] at hecho
    cases tc? with
    | none => exact (pruned_echoes hecho.1).append (ih as hecho.2 hcase)
    | some tc =>
      obtain ⟨hannounced, hok⟩ := hcase 0 tc rfl
      refine ((pruned_echoes hecho.1).append (pruned_caseReport hannounced hok _)).append
        (ih as.tail hecho.2 fun i tc' htc' => ?_)
      rw [Nat.add_assoc, Nat.add_comm 1]
      exact hcase (i + 1) tc' htc'

end

/-! ## Two runs -/

section

variable {σ : Type} [Executor σ] {ls : List SpecLine}

/-- The account of a spec. -/
theorem pruned_stretches (filterDebug : Bool) (label : String) (ls : List SpecLine)
    (as : List (Option Execution)) :
    Pruned (Ornament label ls)
      (account (.loud filterDebug) label 1 (stretches SpecLine.directive ls) as)
      (account (.quiet filterDebug) label 1 (stretches SpecLine.directive ls) as) := by
  rw [← Draft.stretches_empty]
  refine pruned_account as (fun l hl hblank => ?_) fun i tc htc => ?_
  · rw [Draft.flatMap_stretches] at hl
    exact .echo (List.mem_filter.1 hl).1 hblank
  · have htestcase : (testcases SpecLine.directive ls)[i]? = some tc := by
      rw [← Draft.due_empty]
      exact htc
    exact ⟨.announced htestcase, .ok htestcase⟩

/-- The account of a run that halts. -/
theorem pruned_openEnded (filterDebug : Bool) (label : String) {s : σ} {h : Halt σ}
    (hh : Halts .empty ls s h) :
    Pruned (Ornament label ls)
      (account (.loud filterDebug) label 1 (openEnded (stretches SpecLine.directive h.before))
          h.answers ++
        announcement (.loud filterDebug) label (1 + h.answers.length) h.testcase)
      (account (.quiet filterDebug) label 1 (openEnded (stretches SpecLine.directive h.before))
          h.answers ++
        announcement (.quiet filterDebug) label (1 + h.answers.length) h.testcase) := by
  obtain ⟨rest, hrest, -⟩ := hh.exists_rest
  obtain ⟨more, hmore⟩ := hh.exists_due_eq
  obtain ⟨-, s', hanswered, -⟩ := hh.exists_answered
  rw [Draft.due_empty] at hmore
  rw [← Draft.stretches_empty]
  refine .append (pruned_account _ (fun l hl hblank => ?_) fun i tc htc => ?_)
    (pruned_announcement (.announced ?_))
  · rw [flatMap_openEnded, Draft.flatMap_stretches] at hl
    refine .echo ?_ hblank
    rw [hrest]
    exact List.mem_append_left _ (List.mem_filter.1 hl).1
  · have htestcase : (testcases SpecLine.directive ls)[i]? = some tc := by
      rw [filterMap_openEnded] at htc
      rw [hmore, List.getElem?_append_left (List.getElem?_eq_some_iff.1 htc).1, htc]
    exact ⟨.announced htestcase, .ok htestcase⟩
  · rw [hmore, List.getElem?_append_right (Nat.le_of_eq hanswered.length_eq),
      hanswered.length_eq, Nat.sub_self]
    rfl

/-- Both runs at sinks that took some text before. -/
theorem exists_pruned_runs (filterDebug : Bool) (label : String) (bytes : List UInt8)
    (out err : String) (s : σ) :
    ∃ (loud quiet : List String) (result : EStateM.Result RunError (String × σ) (Nat × Nat)),
      Pruned (Ornament label (linesOfSpec bytes)) loud quiet ∧
      runSpec (.loud filterDebug) label (.ofBytes bytes) (.unlimited out err s) =
        seen (fun p => .unlimited (out ++ blockOfLines loud) p.1 p.2) result ∧
      runSpec (.quiet filterDebug) label (.ofBytes bytes) (.unlimited out err s) =
        seen (fun p => .unlimited (out ++ blockOfLines quiet) p.1 p.2) result := by
  rcases answered_or_halts .empty (linesOfSpec bytes) s with ⟨as, s', ha⟩ | ⟨h, hh⟩
  · rw [Draft.due_empty] at ha
    have hrun (opts : SpecOptions) := runSpec_of_answered opts label bytes out err ha
    let failures := failureCount filterDebug (testcases SpecLine.directive (linesOfSpec bytes)) as
    let total := (testcases SpecLine.directive (linesOfSpec bytes)).length
    exact ⟨_, _, .ok (failures, total) (_, s'),
      (pruned_stretches filterDebug label (linesOfSpec bytes) as).append
        (.refl [label ++ ": " ++ verdict failures total]),
      hrun (.loud filterDebug), hrun (.quiet filterDebug)⟩
  · have hrun (opts : SpecOptions) := runSpec_of_halts opts label hh out err
    exact ⟨_, _, .error (h.error.located label h.testcase.line) (_, h.host),
      pruned_openEnded filterDebug label hh, hrun (.loud filterDebug), hrun (.quiet filterDebug)⟩

/-- **Verbosity is presentation.** With the verbose option and without it, a run of a spec returns
the same or stops with the same error, makes the same calls, tells the same diagnostics and leaves
the host the same; and what it reports without the option is what it reports with it, less some
ornaments. -/
theorem runSpec_verbose (filterDebug : Bool) (label : String) (bytes : List UInt8)
    (out err : String) (s : σ) :
    let loud := runSpec (.loud filterDebug) label (.ofBytes bytes) (.unlimited out err s)
    let quiet := runSpec (.quiet filterDebug) label (.ofBytes bytes) (.unlimited out err s)
    seen (fun c => (c.diagnostics, c.host)) loud = seen (fun c => (c.diagnostics, c.host)) quiet ∧
      callsOfSpec (.loud filterDebug) label bytes s =
        callsOfSpec (.quiet filterDebug) label bytes s ∧
      ∃ ls ls', Pruned (Ornament label (linesOfSpec bytes)) ls ls' ∧
        (finalState loud).report.text = out ++ blockOfLines ls ∧
        (finalState quiet).report.text = out ++ blockOfLines ls' := by
  obtain ⟨ls, ls', result, hpruned, hloud, hquiet⟩ :=
    exists_pruned_runs filterDebug label bytes out err s
  -- The calls are what the runs note when they are made at a logbook.
  obtain ⟨_, _, _, -, hloud', hquiet'⟩ :=
    exists_pruned_runs filterDebug label bytes "" "" (⟨s, []⟩ : Logbook σ)
  intro loud quiet
  have hl : loud = _ := hloud
  have hq : quiet = _ := hquiet
  refine ⟨?_, ?_, ls, ls', hpruned, ?_, ?_⟩
  · rw [hl, hq, seen_seen, seen_seen]
    rfl
  · rw [callsOfSpec, callsOfSpec, hloud', hquiet', finalState_seen, finalState_seen]
    rfl
  · rw [hl, finalState_seen]
    rfl
  · rw [hq, finalState_seen]
    rfl

end

end CommandSpec
