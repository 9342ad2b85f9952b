import CommandSpec.Proofs.Session.Composition
import CommandSpec.Proofs.Spec.Closing

/-!
# Commands that cannot be started

**Theorem (`runSpec_startFailure`).** A command that cannot be started ends the run of its spec. The
error is placed at the `!` line of its testcase, whichever line closed it. The testcases before are
reported completely, malformed ones among them; that of the command is announced if all are. Told
are the rejected lines before the closing line, and no other command is run.

When the closing line comes, it is not yet taken: the lines before it close exactly the testcases
before, and leave the one whose command is run (`exists_closing`).
-/

namespace CommandSpec

section

variable {σ : Type} [Executor σ]

/-- What is told of the first lines of a spec. -/
theorem diagnostics_take (label : String) (bytes : List UInt8) (m : Nat) :
    blockOfLines ((Draft.empty.answers (((linesOfSpec bytes).take m).map
        SpecLine.directive)).filterMap (Taken.diagnostic? label)) =
      diagnosticsOfErrors label ((rejectionsOfSpec bytes).filter fun e =>
        e.line.any fun n => n ≤ m) := by
  have hline : Draft.empty.line + m = m := Nat.zero_add m
  rw [diagnostics_eq, List.map_take, Draft.rejections_take, hline]
  rfl

/-- **A command that cannot be started.** -/
theorem runSpec_startFailure (opts : SpecOptions) (label : String) {bytes : List UInt8}
    {earlier later : List Testcase} {tc : Testcase} {as : List (Option Execution)} {e : RunError}
    {s s₁ s₂ : σ} (h : testcases SpecLine.directive (linesOfSpec bytes) = earlier ++ tc :: later)
    (ha : Answered earlier s as s₁) (hm : tc.malformed = false)
    (he : Executor.execute tc.command tc.stdin s₁ = .error e s₂) (out err : String) :
    let ls := linesOfSpec bytes
    let closing := closingLine SpecLine.directive ls tc.line
    let before := openEnded (stretches SpecLine.directive (ls.take (closing - 1)))
    runSpec opts label (.ofBytes bytes) (.unlimited out err s) =
        .error { e with file := some label, line := some tc.line }
          (.unlimited
            (out ++ blockOfLines (account opts label 1 before as ++
              announcement opts label (earlier.length + 1) tc))
            (err ++ diagnosticsOfErrors label ((rejectionsOfSpec bytes).filter fun r =>
              r.line.any fun n => n < closing))
            s₂) ∧
      before.filterMap Stretch.testcase? = earlier ∧
      callsOfSpec opts label bytes s = callsOfTestcases earlier ++ [tc.call] ∧
      ∃ l text, tc.line ≠ 0 ∧ ls[tc.line - 1]? = some l ∧ l.directive = .command text ∧
        tc.command = .ofList (Text.trim text.toList) := by
  intro ls closing before
  obtain ⟨hcloses, hpending, hrest, hplace⟩ := exists_closing h hm
  have hls : ls = ls.take (closing - 1) ++ ls.drop (closing - 1) :=
    (List.take_append_drop _ _).symm
  have htold : diagnosticsOfErrors label ((rejectionsOfSpec bytes).filter fun r =>
        r.line.any fun n => n < closing) =
      blockOfLines ((Draft.empty.answers ((ls.take (closing - 1)).map
        SpecLine.directive)).filterMap (Taken.diagnostic? label)) := by
    rw [diagnostics_take]
    simp only [closing, closingLine, Nat.add_sub_cancel, Nat.lt_succ_iff]
  have hanswered : Answered (Draft.empty.closes ((ls.take (closing - 1)).map SpecLine.directive)) s
      as s₁ := hcloses.symm ▸ ha
  refine ⟨?_, ?_, ?_, hplace⟩
  · rw [runSpec_of_pending opts label hls hanswered hpending hm he hrest out err, htold,
      ha.length_eq, Nat.add_comm as.length]
    rfl
  · exact (filterMap_openEnded_stretches _ _).trans hcloses
  · rw [callsOfSpec, runSpec_of_pending opts label hls (hanswered.logbook []) hpending hm
      (execute_logbook_of_error he _) hrest "" "", hcloses]
    rfl

end

/-- A host that can start so many commands. Each of them prints itself. -/
structure Budget where
  left : Nat
  deriving DecidableEq, Repr

instance : Executor Budget where
  execute command _ s :=
    match s.left with
    | 0 => .error { kind := .spawn, message := "out of processes", command := some command } s
    | n + 1 => .ok ⟨0, [command], []⟩ ⟨n⟩

/-- An orphan, a testcase that passes, a malformed one, and one whose command cannot be started. Its
closing line is followed by a line that is rejected, and is not told. -/
theorem runSpec_startFailure_budget :
    let bytes := "x\n!a\n>a\n!b\n?z\n# c\n!c\n<d\n!e\n~\n".toUTF8.toList
    let tcs := testcases SpecLine.directive (linesOfSpec bytes)
    let tc : Testcase := { command := "c", stdin := ["d"], line := 7 }
    let e : RunError := { kind := .spawn, message := "out of processes", command := some "c" }
    tcs = tcs.take 3 ++ tc :: tcs.drop 4 ∧
    Answered (tcs.take 3) (⟨1⟩ : Budget) [none, some ⟨0, ["a"], []⟩, none] ⟨0⟩ ∧
    tc.malformed = false ∧
    Executor.execute tc.command tc.stdin (⟨0⟩ : Budget) = .error e ⟨0⟩ ∧
    runSpec {} "t" (.ofBytes bytes) (.unlimited "" "" (⟨1⟩ : Budget)) =
      .error { e with file := some "t", line := some 7 }
        (.unlimited
          (blockOfLines ["t #1: FAIL: malformed testcase at line 1, not executed", "t #1: FAILED",
            "t #3: FAIL: malformed testcase at line 4, not executed", "t #3: FAILED"])
          (blockOfLines ["t:1: unrecognized marker 'x'", "t:5: invalid exit status 'z'"]) ⟨0⟩) ∧
    callsOfSpec {} "t" bytes (⟨1⟩ : Budget) = [("a", []), ("c", ["d"])] := by
  intro bytes tcs tc e
  have htcs : tcs = tcs.take 3 ++ tc :: tcs.drop 4 := by decide +kernel
  have hfirst : tcs.take 3 = [{ command := "", malformed := true, line := 1 },
      { command := "a", stdout := ["a"], line := 2 },
      { command := "b", malformed := true, line := 4 }] := by
    decide +kernel
  have hanswered : Answered (tcs.take 3) (⟨1⟩ : Budget) [none, some ⟨0, ["a"], []⟩, none] ⟨0⟩ := by
    rw [hfirst]
    exact .cons ⟨rfl, rfl⟩ (.cons ⟨rfl, rfl⟩ (.cons ⟨rfl, rfl⟩ (.nil _)))
  have herror : Executor.execute tc.command tc.stdin (⟨0⟩ : Budget) = .error e ⟨0⟩ := rfl
  obtain ⟨hrun, -, hcalls, -⟩ := runSpec_startFailure {} "t" htcs hanswered rfl herror "" ""
  exact ⟨htcs, hanswered, rfl, herror, hrun.trans (by decide +kernel),
    hcalls.trans (by decide +kernel)⟩

end CommandSpec
