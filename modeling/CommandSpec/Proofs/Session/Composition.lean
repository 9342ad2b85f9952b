import CommandSpec.Proofs.Session.Halt
import CommandSpec.Proofs.Session.Logbook
import CommandSpec.Proofs.Text.Lines

/-!
# Specs one after the other

A spec that ends with a newline may be followed by another one that opens blank.

**Theorem (`runSpec_append`).** If both specs return, the second at the host that the first left,
then so does the spec that they make together. It counts what both count, runs the commands of the
first and then those of the second, and tells the diagnostics of both, those of the second with
their lines counted on.

The seam is in the spec and not in the run: the lines before it and after it are those of the two
specs, and the last testcase of the first is closed by the first `!` line of the second as it was by
the end of the first (`testcases_append`). That both runs return means that all their testcases are
answered, so that those of the whole are, and its run is the batch of the answers.
-/

namespace CommandSpec

/-! ## What is told of a spec -/

/-- The errors of the lines of a spec that are rejected. -/
def rejectionsOfSpec (bytes : List UInt8) : List RunError :=
  Draft.empty.rejections ((linesOfSpec bytes).map SpecLine.directive)

/-- The diagnostics of some errors in the spec with the given label. -/
def diagnosticsOfErrors (label : String) (es : List RunError) : String :=
  blockOfLines (es.map fun e => (e.inFile label).render)

theorem diagnosticsOfErrors_append (label : String) (es es' : List RunError) :
    diagnosticsOfErrors label (es ++ es') =
      diagnosticsOfErrors label es ++ diagnosticsOfErrors label es' := by
  rw [diagnosticsOfErrors, List.map_append, blockOfLines_append]
  rfl

/-! ## Testcases further down -/

@[simp] theorem Testcase.passes_later (filter : Bool) (k : Nat) (tc : Testcase)
    (a : Option Execution) : (tc.later k).passes filter a = tc.passes filter a := by
  cases a <;> rfl

/-- Where a testcase stands does not change its answer. -/
theorem Answered.later {σ : Type} [Executor σ] {tcs : List Testcase} {s s' : σ}
    {as : List (Option Execution)} (h : Answered tcs s as s') (k : Nat) :
    Answered (tcs.map (.later k)) s as s' := by
  induction h with
  | nil s => exact .nil s
  | @cons tc _ s s₁ _ a _ htc _ ih =>
    have hlater : (tc.later k).Answered s a s₁ := by
      cases a <;> exact htc
    exact .cons hlater ih

theorem failureCount_later (filter : Bool) (k : Nat) (tcs : List Testcase)
    (as : List (Option Execution)) :
    failureCount filter (tcs.map (.later k)) as = failureCount filter tcs as := by
  simp [failureCount, List.zip_map_left, List.countP_map, Function.comp_def]

theorem callsOfTestcases_later (k : Nat) (tcs : List Testcase) :
    callsOfTestcases (tcs.map (.later k)) = callsOfTestcases tcs := by
  simp [callsOfTestcases, List.filter_map, Function.comp_def, Testcase.later, Testcase.call]

/-! ## Two specs -/

section

variable {bytes₁ bytes₂ : List UInt8}

theorem rejectionsOfSpec_append (h : bytes₁ = [] ∨ bytes₁.getLast? = some Text.newline)
    (hopen : OpensBlank SpecLine.directive (linesOfSpec bytes₂)) :
    rejectionsOfSpec (bytes₁ ++ bytes₂) =
      rejectionsOfSpec bytes₁ ++
        (rejectionsOfSpec bytes₂).map (.later (linesOfSpec bytes₁).length) := by
  rw [rejectionsOfSpec, linesOfSpec_append h, List.map_append,
    Draft.rejections_append_of_opensBlank _ ((opensBlank_map _ _).2 hopen), List.length_map]
  rfl

theorem testcases_linesOfSpec_append (h : bytes₁ = [] ∨ bytes₁.getLast? = some Text.newline)
    (hopen : OpensBlank SpecLine.directive (linesOfSpec bytes₂)) :
    testcases SpecLine.directive (linesOfSpec (bytes₁ ++ bytes₂)) =
      testcases SpecLine.directive (linesOfSpec bytes₁) ++
        (testcases SpecLine.directive (linesOfSpec bytes₂)).map
          (.later (linesOfSpec bytes₁).length) := by
  rw [linesOfSpec_append h, testcases_append _ hopen]

/-- What a run of a spec tells are the errors of its rejected lines. -/
theorem diagnosticsOfErrors_rejectionsOfSpec (label : String) (bytes : List UInt8) :
    "" ++ blockOfLines ((Draft.empty.answers ((linesOfSpec bytes).map
        SpecLine.directive)).filterMap (Taken.diagnostic? label)) =
      diagnosticsOfErrors label (rejectionsOfSpec bytes) := by
  rw [String.empty_append, diagnostics_eq]
  rfl

/-- **Specs compose.** -/
theorem runSpec_append {σ : Type} [Executor σ] (opts : SpecOptions) (label : String) {s : σ}
    {f₁ t₁ f₂ t₂ : Nat} {c₁ c₂ : Console Sink Sink σ}
    (hends : bytes₁ = [] ∨ bytes₁.getLast? = some Text.newline)
    (hopens : ∀ l, (linesOfSpec bytes₂).find? (fun l => l.directive != .blank) = some l →
      l.directive.isCommand = true)
    (h₁ : runSpec opts label (.ofBytes bytes₁) (.unlimited "" "" s) = .ok (f₁, t₁) c₁)
    (h₂ : runSpec opts label (.ofBytes bytes₂) (.unlimited "" "" c₁.host) = .ok (f₂, t₂) c₂) :
    ∃ c, runSpec opts label (.ofBytes (bytes₁ ++ bytes₂)) (.unlimited "" "" s) =
        .ok (f₁ + f₂, t₁ + t₂) c ∧
      c.host = c₂.host ∧
      callsOfSpec opts label (bytes₁ ++ bytes₂) s =
        callsOfSpec opts label bytes₁ s ++ callsOfSpec opts label bytes₂ c₁.host ∧
      c₁.diagnostics.text = diagnosticsOfErrors label (rejectionsOfSpec bytes₁) ∧
      c₂.diagnostics.text = diagnosticsOfErrors label (rejectionsOfSpec bytes₂) ∧
      c.diagnostics.text = c₁.diagnostics.text ++ diagnosticsOfErrors label
        ((rejectionsOfSpec bytes₂).map (.later (linesOfSpec bytes₁).length)) := by
  have hopen := (opensBlank_iff_find? SpecLine.directive (linesOfSpec bytes₂)).2 hopens
  obtain ⟨report₁, err₁, host₁⟩ := c₁
  obtain ⟨report₂, err₂, host₂⟩ := c₂
  obtain ⟨as₁, ha₁, hb₁⟩ := exists_answered_of_runSpec h₁
  obtain ⟨as₂, ha₂, hb₂⟩ := exists_answered_of_runSpec h₂
  -- Both runs are batches, so their counts and their consoles are known.
  cases hb₁
  cases hb₂
  have htestcases := testcases_linesOfSpec_append hends hopen
  have ha : Answered (testcases SpecLine.directive (linesOfSpec (bytes₁ ++ bytes₂))) s
      (as₁ ++ as₂) host₂ :=
    htestcases ▸ answered_append.2 ⟨as₁, host₁, as₂, rfl, ha₁, ha₂.later _⟩
  have hcount : failureCount opts.filterDebug
        (testcases SpecLine.directive (linesOfSpec (bytes₁ ++ bytes₂))) (as₁ ++ as₂) =
      failureCount opts.filterDebug (testcases SpecLine.directive (linesOfSpec bytes₁)) as₁ +
        failureCount opts.filterDebug (testcases SpecLine.directive (linesOfSpec bytes₂)) as₂ := by
    rw [htestcases, failureCount_append _ ha₁.length_eq, failureCount_later]
  have hlength : (testcases SpecLine.directive (linesOfSpec (bytes₁ ++ bytes₂))).length =
      (testcases SpecLine.directive (linesOfSpec bytes₁)).length +
        (testcases SpecLine.directive (linesOfSpec bytes₂)).length := by
    rw [htestcases, List.length_append, List.length_map]
  have hrun := runSpec_of_answered opts label (bytes₁ ++ bytes₂) "" "" ha
  rw [batch] at hrun
  simp only [hcount, hlength] at hrun
  have htold := diagnosticsOfErrors_rejectionsOfSpec label
  refine ⟨_, hrun, rfl, ?_, htold bytes₁, htold bytes₂, ?_⟩
  · rw [callsOfSpec_of_answered opts label ha, callsOfSpec_of_answered opts label ha₁,
      callsOfSpec_of_answered opts label ha₂, htestcases, callsOfTestcases_append,
      callsOfTestcases_later]
  · rw [htold, htold, rejectionsOfSpec_append hends hopen, diagnosticsOfErrors_append]

end

/-- A host at which every command prints how many were run before it. -/
structure Turnstile where
  count : Nat := 0
  deriving DecidableEq, Repr

instance : Executor Turnstile where
  execute _ _ s := .ok ⟨0, [toString s.count], []⟩ ⟨s.count + 1⟩

/-- The first spec starts with an orphan and ends with a malformed testcase. The second starts with
a comment and an empty line, and its first testcase passes only after one other command. -/
theorem runSpec_append_turnstile :
    let bytes₁ := "x\n!a\n>0\n!b\n?z\n".toUTF8.toList
    let bytes₂ := "# c\n\n!d\n>1\n!e\n~".toUTF8.toList
    bytes₁.getLast? = some Text.newline ∧
    ∃ c₁ c₂ c : Console Sink Sink Turnstile,
      runSpec {} "t" (.ofBytes bytes₁) (.unlimited "" "" {}) = .ok (2, 3) c₁ ∧
      runSpec {} "t" (.ofBytes bytes₂) (.unlimited "" "" c₁.host) = .ok (1, 2) c₂ ∧
      runSpec {} "t" (.ofBytes (bytes₁ ++ bytes₂)) (.unlimited "" "" {}) = .ok (3, 5) c ∧
      c.diagnostics.text =
        blockOfLines ["t:1: unrecognized marker 'x'", "t:5: invalid exit status 'z'",
          "t:11: unrecognized marker '~'"] := by
  intro bytes₁ bytes₂
  have h₁ : runSpec {} "t" (.ofBytes bytes₁) (.unlimited "" "" ({} : Turnstile)) =
      .ok (2, 3) (finalState (runSpec {} "t" (.ofBytes bytes₁) (.unlimited "" "" {}))) := by
    decide +kernel
  have h₂ : runSpec {} "t" (.ofBytes bytes₂) (.unlimited "" "" (⟨1⟩ : Turnstile)) =
      .ok (1, 2) (finalState (runSpec {} "t" (.ofBytes bytes₂) (.unlimited "" "" ⟨1⟩))) := by
    decide +kernel
  have hhost : (finalState (runSpec {} "t" (.ofBytes bytes₁)
      (.unlimited "" "" ({} : Turnstile)))).host = ⟨1⟩ := by
    decide +kernel
  have hopens : ∀ l, (linesOfSpec bytes₂).find? (fun l => l.directive != .blank) = some l →
      l.directive.isCommand = true := by
    decide +kernel
  obtain ⟨c, hrun, -, -, -, -, htold⟩ :=
    runSpec_append {} "t" (.inr (by decide +kernel)) hopens h₁ (hhost ▸ h₂)
  exact ⟨by decide +kernel, _, _, c, h₁, hhost ▸ h₂, hrun, htold.trans (by decide +kernel)⟩

end CommandSpec
