import CommandSpec.Proofs.Session.Composition
import CommandSpec.Proofs.Session.Limits
import CommandSpec.Proofs.Spec.Complaint

/-!
# Diagnostics

What a run tells on its second channel is told about the spec and not about the commands: it is
settled before any command is run.

**Theorem (`runSpec_diagnostics`).** Two runs of one spec that both return tell the same
diagnostics, whatever their hosts and options are and however much their channels would still have
taken. These are the complaints about the lines of the spec (`complaints`), one for each line that
is rejected. There are none unless a testcase failed, and the testcases reported as malformed are as
many as the segments that are spoiled by such a line (`spoiledSegments`).

A run that returns was refused nothing, so that it does the same at sinks without a limit
(`runSpec_freed`). There it is the batch of its answers, the diagnostics of which are those of the
draft alone.
-/

namespace CommandSpec

/-! ## Sinks that took everything -/

/-- The sink without its limit. -/
def Sink.freed (sink : Sink) : Sink :=
  ⟨sink.text, none⟩

/-- The console with sinks that never refuse. -/
def Console.freed {σ : Type} (c : Console Sink Sink σ) : Console Sink Sink σ :=
  ⟨c.report.freed, c.diagnostics.freed, c.host⟩

/-- A sink that did not refuse a text took all of it. -/
theorem Sink.put_freed {text : String} {sink sink' : Sink} (h : Sink.put text sink = .ok () sink') :
    Sink.put text sink.freed = .ok () sink'.freed := by
  obtain ⟨out, room⟩ := sink
  cases room with
  | none =>
    cases h
    rfl
  | some n =>
    have hsplit := splitAfterLines_append n text.toList
    simp only [Sink.put] at h
    split at h
    · rename_i hrest
      rw [List.isEmpty_iff.1 hrest, List.append_nil] at hsplit
      cases h
      show EStateM.Result.ok () (⟨out ++ text, none⟩ : Sink) =
        .ok () ⟨out ++ .ofList (splitAfterLines n text.toList).1, none⟩
      rw [hsplit, String.ofList_toList]
    · cases h

section

variable {σ α : Type} {c c' : Console Sink Sink σ} {text : String}

theorem report_freed (h : Running.report text c = .ok () c') :
    Running.report text c.freed = .ok () c'.freed := by
  cases hput : Sink.put (text ++ "\n") c.report with
  | ok _ sink =>
    rw [Running.report_of_ok hput] at h
    cases h
    exact Running.report_of_ok (Sink.put_freed hput)
  | error _ _ =>
    rw [Running.report_of_error hput] at h
    cases h

theorem diagnose_freed (h : Running.diagnose text c = .ok () c') :
    Running.diagnose text c.freed = .ok () c'.freed := by
  cases hput : Sink.put (text ++ "\n") c.diagnostics with
  | ok _ sink =>
    rw [Running.diagnose_of_ok hput] at h
    cases h
    exact Running.diagnose_of_ok (Sink.put_freed hput)
  | error _ _ =>
    rw [Running.diagnose_of_error hput] at h
    cases h

theorem atHost_freed {toError : Fault → RunError} {action : EStateM Fault σ α} {a : α}
    (h : Running.atHost toError action c = .ok a c') :
    Running.atHost toError action c.freed = .ok a c'.freed := by
  cases haction : action c.host with
  | ok _ host =>
    rw [Running.atHost_of_ok haction] at h
    cases h
    have hfreed : action c.freed.host = .ok a host := haction
    exact Running.atHost_of_ok hfreed toError
  | error fault host =>
    rw [Running.atHost_of_error haction] at h
    cases h

variable [Executor σ] {refill : EStateM Fault σ (List UInt8)}

/-- An action that did not fail does the same at sinks without a limit. -/
theorem Action.take_freed (action : Action) {answer : action.Answer}
    (h : action.take (.sinks refill) c = .ok answer c') :
    action.take (.sinks refill) c.freed = .ok answer c'.freed := by
  cases action with
  | report text => exact report_freed h
  | diagnose text => exact diagnose_freed h
  | call command stdin label line =>
    cases hcall : Executor.execute command stdin c.host with
    | ok result host =>
      rw [Action.take_call_of_ok hcall] at h
      cases h
      exact Action.take_call_of_ok (S := .sinks refill) (c := c.freed) hcall label line
    | error e host =>
      rw [Action.take_call_of_error hcall] at h
      cases h
  | read label => exact atHost_freed h

/-- So does a course. -/
theorem Course.run_freed (course : Course α) {a : α}
    (h : course.run (.sinks refill) c = .ok a c') :
    course.run (.sinks refill) c.freed = .ok a c'.freed := by
  induction course generalizing c with
  | done b =>
    cases h
    rfl
  | act action rest ih =>
    cases haction : action.take (.sinks refill) c with
    | ok answer c₁ =>
      rw [Course.run_act_of_ok haction] at h
      rw [Course.run_act_of_ok (action.take_freed haction)]
      exact ih answer h
    | error e c₁ =>
      rw [Course.run_act_of_error haction] at h
      cases h

/-- **A run that returns was refused nothing.** -/
theorem runSpec_freed {opts : SpecOptions} {label : String} {source : Source σ}
    {results : Nat × Nat} (h : runSpec opts label source c = .ok results c') :
    runSpec opts label source c.freed = .ok results c'.freed := by
  obtain ⟨course, hcourse⟩ := runSpec_course opts label source.bytes source.refills
  have hrun : (runSpec opts label source : Running Sink Sink σ (Nat × Nat)) =
      course.run (.sinks source.refill) :=
    hcourse (.sinks source.refill)
  rw [hrun] at h ⊢
  exact course.run_freed h

end

/-! ## Answers -/

section

variable {σ : Type} [Executor σ] {tcs : List Testcase} {s s' : σ} {as : List (Option Execution)}

/-- The testcases without an answer are the malformed ones. -/
theorem Answered.countP_isNone (h : Answered tcs s as s') :
    as.countP Option.isNone = tcs.countP Testcase.malformed := by
  induction h with
  | nil => rfl
  | @cons tc _ _ _ _ a _ htc _ ih =>
    rw [List.countP_cons, List.countP_cons, ih]
    cases a with
    | none => simp [htc.1]
    | some r => simp [htc.1]

/-- A testcase without an answer fails. -/
theorem Answered.countP_isNone_le (h : Answered tcs s as s') (filter : Bool) :
    as.countP Option.isNone ≤ failureCount filter tcs as := by
  induction h with
  | nil => exact Nat.le_refl 0
  | @cons tc _ _ _ _ a _ _ _ ih =>
    rw [failureCount] at ih ⊢
    rw [List.countP_cons, List.zip_cons_cons, List.countP_cons]
    cases a with
    | none => exact Nat.succ_le_succ ih
    | some r => exact Nat.le_trans ih (Nat.le_add_right _ _)

end

/-! ## Diagnostics -/

/-- The lines of a spec, decoded. -/
def decodedLines (bytes : List UInt8) : List (List Char) :=
  (Text.physicalLines bytes).map Utf8.decode

theorem map_directive_linesOfSpec (bytes : List UInt8) :
    (linesOfSpec bytes).map SpecLine.directive = (decodedLines bytes).map directiveOf := by
  rw [linesOfSpec, decodedLines, List.map_map, List.map_map]
  rfl

theorem countP_malformed_linesOfSpec (bytes : List UInt8) :
    (testcases SpecLine.directive (linesOfSpec bytes)).countP Testcase.malformed =
      spoiledSegments (decodedLines bytes) := by
  rw [← countP_malformed_testcases, linesOfSpec, decodedLines, testcases_map, testcases_map]
  rfl

theorem diagnostics_linesOfSpec (label : String) (bytes : List UInt8) :
    (Draft.empty.answers ((linesOfSpec bytes).map SpecLine.directive)).filterMap
        (Taken.diagnostic? label) = complaints label (decodedLines bytes) := by
  rw [diagnostics_eq, map_directive_linesOfSpec, rejections_eq_complaints]

/-- What a run that returned told and counted. -/
theorem exists_account_of_runSpec {σ : Type} [Executor σ] {opts : SpecOptions} {label : String}
    {bytes : List UInt8} {n m : Option Nat} {host : σ} {results : Nat × Nat}
    {c : Console Sink Sink σ}
    (h : runSpec opts label (.ofBytes bytes) ⟨⟨"", n⟩, ⟨"", m⟩, host⟩ = .ok results c) :
    c.diagnostics.text = blockOfLines (complaints label (decodedLines bytes)) ∧
    ∃ as, Answered (testcases SpecLine.directive (linesOfSpec bytes)) host as c.host ∧
      c.report.text = blockOfLines
        (account opts label 1 (stretches SpecLine.directive (linesOfSpec bytes)) as ++
          [label ++ ": " ++ verdict results.1 results.2]) ∧
      results.1 =
        failureCount opts.filterDebug (testcases SpecLine.directive (linesOfSpec bytes)) as := by
  obtain ⟨as, ha, hbatch⟩ := exists_answered_of_runSpec (runSpec_freed h)
  obtain ⟨rfl, hconsole⟩ := EStateM.Result.ok.inj hbatch
  have hdiagnostics : c.diagnostics.text = _ := congrArg (fun c => c.diagnostics.text) hconsole
  have hreport : c.report.text = _ := congrArg (fun c => c.report.text) hconsole
  refine ⟨?_, as, ha, ?_, rfl⟩
  · rw [hdiagnostics, diagnostics_linesOfSpec]
    exact String.empty_append
  · rw [hreport]
    exact String.empty_append

/-- **Diagnostics depend on the spec alone.** -/
theorem runSpec_diagnostics {σ₁ σ₂ : Type} [Executor σ₁] [Executor σ₂] {label : String}
    {bytes : List UInt8} {opts₁ opts₂ : SpecOptions} {n₁ m₁ n₂ m₂ : Option Nat} {host₁ : σ₁}
    {host₂ : σ₂} {results₁ results₂ : Nat × Nat} {c₁ : Console Sink Sink σ₁}
    {c₂ : Console Sink Sink σ₂}
    (h₁ : runSpec opts₁ label (.ofBytes bytes) ⟨⟨"", n₁⟩, ⟨"", m₁⟩, host₁⟩ = .ok results₁ c₁)
    (h₂ : runSpec opts₂ label (.ofBytes bytes) ⟨⟨"", n₂⟩, ⟨"", m₂⟩, host₂⟩ = .ok results₂ c₂) :
    c₁.diagnostics.text = c₂.diagnostics.text ∧
    c₁.diagnostics.text = blockOfLines (complaints label (decodedLines bytes)) ∧
    (c₁.diagnostics.text ≠ "" → 1 ≤ results₁.1) ∧
    ∃ as, Answered (testcases SpecLine.directive (linesOfSpec bytes)) host₁ as c₁.host ∧
      c₁.report.text = blockOfLines
        (account opts₁ label 1 (stretches SpecLine.directive (linesOfSpec bytes)) as ++
          [label ++ ": " ++ verdict results₁.1 results₁.2]) ∧
      as.countP Option.isNone = spoiledSegments (decodedLines bytes) := by
  obtain ⟨htold₁, as, has, hreport, hfailures⟩ := exists_account_of_runSpec h₁
  obtain ⟨htold₂, -⟩ := exists_account_of_runSpec h₂
  have hmalformed : as.countP Option.isNone = spoiledSegments (decodedLines bytes) :=
    has.countP_isNone.trans (countP_malformed_linesOfSpec bytes)
  refine ⟨htold₁.trans htold₂.symm, htold₁, fun htold => ?_, as, has, hreport, hmalformed⟩
  by_contra hnone
  have hspoiled : spoiledSegments (decodedLines bytes) = 0 := by
    have hle := has.countP_isNone_le opts₁.filterDebug
    omega
  rw [htold₁, complaints_eq_nil label hspoiled] at htold
  exact htold rfl

/-- A line before the first `!` line, bytes that are no character, a wrong exit status and a last
line without a newline; three segments are spoiled, one of them twice. The hosts and the options
differ, and the first run fills both of its channels. -/
theorem runSpec_diagnostics_full :
    let bytes : List UInt8 :=
      [0x3E, 0x61, 0x0A, 0x23, 0x0A, 0x21, 0x62, 0x0A, 0xFF, 0x78, 0x0A, 0x20, 0x3F, 0x7A, 0x0D, 0x0A,
        0x21, 0x63, 0x0A, 0x21, 0x64, 0x0A, 0x7E]
    ∃ (c₁ : Console Sink Sink Parrot) (c₂ : Console Sink Sink Turnstile),
      runSpec {} "t" (.ofBytes bytes) ⟨⟨"", some 11⟩, ⟨"", some 4⟩, {}⟩ = .ok (4, 4) c₁ ∧
      runSpec ⟨true, true⟩ "t" (.ofBytes bytes) ⟨⟨"", none⟩, ⟨"", none⟩, {}⟩ = .ok (4, 4) c₂ ∧
      c₁.diagnostics.text = c₂.diagnostics.text ∧
      c₁.diagnostics.text = blockOfLines
        ["t:1: '>' line before first command", "t:4: unrecognized marker '\uFFFD'",
          "t:5: invalid exit status 'z'", "t:8: unrecognized marker '~'"] ∧
      ∃ as, Answered (testcases SpecLine.directive (linesOfSpec bytes)) ({} : Parrot) as c₁.host ∧
        as.countP Option.isNone = 3 := by
  intro bytes
  let start₁ : Console Sink Sink Parrot := ⟨⟨"", some 11⟩, ⟨"", some 4⟩, {}⟩
  let start₂ : Console Sink Sink Turnstile := ⟨⟨"", none⟩, ⟨"", none⟩, {}⟩
  have h₁ : runSpec {} "t" (.ofBytes bytes) start₁ =
      .ok (4, 4) (finalState (runSpec {} "t" (.ofBytes bytes) start₁)) := by
    decide +kernel
  have h₂ : runSpec ⟨true, true⟩ "t" (.ofBytes bytes) start₂ =
      .ok (4, 4) (finalState (runSpec ⟨true, true⟩ "t" (.ofBytes bytes) start₂)) := by
    decide +kernel
  have hcomplaints : complaints "t" (decodedLines bytes) =
      ["t:1: '>' line before first command", "t:4: unrecognized marker '\uFFFD'",
        "t:5: invalid exit status 'z'", "t:8: unrecognized marker '~'"] := by
    decide +kernel
  have hspoiled : spoiledSegments (decodedLines bytes) = 3 := by
    decide +kernel
  obtain ⟨htexts, htold, -, as, has, -, hmalformed⟩ := runSpec_diagnostics h₁ h₂
  exact ⟨_, _, h₁, h₂, htexts, htold.trans (congrArg blockOfLines hcomplaints), as, has,
    hmalformed.trans hspoiled⟩

end CommandSpec
