import CommandSpec.Proofs.Session.Batch
import CommandSpec.Proofs.Spec.Line
import CommandSpec.Proofs.Text.Integer
import CommandSpec.Proofs.Text.Lines
import CommandSpec.Proofs.Text.Utf8

/-!
# Golden specs

A golden spec is written from what a command did: a `!` line with the command, a `>` line for each
line of its standard output, a `/` line for each line of its standard error and a `?` line with its
exit status, each closed by a carriage return and a newline. The lines hold the bytes as the command
wrote them, whether they are UTF-8 or not.

**Theorem (`runSpec_golden`).** A command that does again what its golden spec was written from
passes it.

What a command printed is decoded as a whole and then cut into lines, while the lines of a spec are
cut first and decoded one by one. Both give the same because a newline is a boundary of the decoding
(`lines_decode`); and because a carriage return is one too, the end of a line takes nothing from it.
-/

namespace CommandSpec

/-! ## Golden specs -/

/-- A spec line without its newline: a marker, what it marks, and a carriage return. -/
def marked (marker : UInt8) (content : List UInt8) : List UInt8 :=
  marker :: content ++ [0x0D]

/-- The lines of a golden spec without their newlines. -/
def goldenLines (command : String) (status : Int) (stdout stderr : List UInt8) :
    List (List UInt8) :=
  marked 0x21 (Utf8.encode command.toList) ::
    ((Text.rawLines stdout).map (marked 0x3E) ++ (Text.rawLines stderr).map (marked 0x2F) ++
      [marked 0x3F (Utf8.encode (toString status).toList)])

/-- The spec that says what a command did. -/
def golden (command : String) (status : Int) (stdout stderr : List UInt8) : List UInt8 :=
  (goldenLines command status stdout stderr).flatMap (· ++ [Text.newline])

/-! ## Lines and decoding -/

/-- **Decoding commutes with cutting into lines.** -/
theorem lines_decode (bytes : List UInt8) :
    Text.lines (Utf8.decode bytes) = (Text.rawLines bytes).map Utf8.decode := by
  induction bytes using Text.separated_induction Text.newline with
  | last line h =>
    rw [Text.lines_of_not_mem (Utf8.newline_not_mem_decode h), Text.rawLines_of_not_mem h]
    by_cases hnil : line = []
    · rw [hnil]
      rfl
    · rw [if_neg hnil, if_neg (mt Utf8.decode_eq_nil.1 hnil), List.map_singleton]
  | closed line rest h ih =>
    rw [Utf8.decode_append_cons (by decide), Text.rawLines_append_newline h, List.map_cons, ← ih]
    exact Text.lines_append_newline (Utf8.newline_not_mem_decode h) _

theorem linesOfBlock_decode (bytes : List UInt8) :
    linesOfBlock (.ofList (Utf8.decode bytes)) =
      (Text.rawLines bytes).map fun line => .ofList (Utf8.decode line) := by
  rw [linesOfBlock, String.toList_ofList, lines_decode, List.map_map]
  rfl

theorem newline_not_mem_marked {marker : UInt8} {content : List UInt8} (hm : marker ≠ Text.newline)
    (h : Text.newline ∉ content) : Text.newline ∉ marked marker content := by
  have hreturn : Text.newline ≠ 0x0D := by decide
  rw [marked, List.cons_append, List.mem_cons, List.mem_append, List.mem_singleton]
  simp only [hm.symm, h, hreturn, or_self, not_false_eq_true]

theorem newline_not_mem_goldenLines {command : String} (h : '\n' ∉ command.toList) (status : Int)
    (stdout stderr : List UInt8) :
    ∀ line ∈ goldenLines command status stdout stderr, Text.newline ∉ line := by
  have hstatus : '\n' ∉ (toString status).toList := fun hmem =>
    absurd (Text.isBlank_of_mem_toString hmem) (by decide)
  have hraw (marker : UInt8) (hm : marker ≠ Text.newline) (bytes : List UInt8) :
      ∀ line ∈ (Text.rawLines bytes).map (marked marker), Text.newline ∉ line := by
    intro line hline
    obtain ⟨content, hcontent, rfl⟩ := List.mem_map.1 hline
    exact newline_not_mem_marked hm (Text.newline_not_mem_rawLines hcontent)
  simp only [goldenLines, List.forall_mem_cons, List.forall_mem_append]
  exact ⟨newline_not_mem_marked (by decide) (Utf8.newline_not_mem_encode h),
    ⟨hraw 0x3E (by decide) stdout, hraw 0x2F (by decide) stderr⟩,
    newline_not_mem_marked (by decide) (Utf8.newline_not_mem_encode hstatus), by simp⟩

/-- A marked line is classified by its marker and loses its end. -/
theorem directive_marked {marker : UInt8} (hm : marker.toNat ≤ 0x7F)
    (hblank : isBlank (Char.ofNat marker.toNat) = false) (content : List UInt8) :
    (SpecLine.ofBytes (marked marker content ++ [Text.newline])).directive =
      Directive.ofLine (Char.ofNat marker.toNat :: (Utf8.decode content ++ ['\r', '\n'])) := by
  have hdecode : Utf8.decode (marked marker content ++ [Text.newline]) =
      Char.ofNat marker.toNat :: (Utf8.decode content ++ ['\r', '\n']) := by
    rw [marked, List.append_assoc, List.cons_append, Utf8.decode_cons hm, List.singleton_append,
      Utf8.decode_append_cons (by decide), Utf8.decode_cons (by decide)]
    rfl
  rw [SpecLine.ofBytes, SpecLine.ofChars, hdecode, Text.trimStart, List.dropWhile_cons, hblank]
  rfl

theorem directive_marked_of {marker : UInt8} {of : String → Directive} (hm : marker.toNat ≤ 0x7F)
    (hblank : isBlank (Char.ofNat marker.toNat) = false)
    (hof : ∀ rest, Directive.ofLine (Char.ofNat marker.toNat :: rest) =
      of (.ofList (Directive.dropTerminator rest)))
    (content : List UInt8) :
    (SpecLine.ofBytes (marked marker content ++ [Text.newline])).directive =
      of (.ofList (Utf8.decode content)) := by
  rw [directive_marked hm hblank, hof, Directive.dropTerminator_append]

theorem directive_command (content : List UInt8) :
    (SpecLine.ofBytes (marked 0x21 content ++ [Text.newline])).directive =
      .command (.ofList (Utf8.decode content)) :=
  directive_marked_of (by decide) (by decide) (fun _ => rfl) content

theorem directive_input (content : List UInt8) :
    (SpecLine.ofBytes (marked 0x3C content ++ [Text.newline])).directive =
      .input (.ofList (Utf8.decode content)) :=
  directive_marked_of (by decide) (by decide) (fun _ => rfl) content

theorem directive_output (content : List UInt8) :
    (SpecLine.ofBytes (marked 0x3E content ++ [Text.newline])).directive =
      .output (.ofList (Utf8.decode content)) :=
  directive_marked_of (by decide) (by decide) (fun _ => rfl) content

theorem directive_errorOutput (content : List UInt8) :
    (SpecLine.ofBytes (marked 0x2F content ++ [Text.newline])).directive =
      .errorOutput (.ofList (Utf8.decode content)) :=
  directive_marked_of (by decide) (by decide) (fun _ => rfl) content

theorem directive_status {n : Int} (h : -2 ^ 31 ≤ n) (h' : n < 2 ^ 31) :
    (SpecLine.ofBytes (marked 0x3F (Utf8.encode (toString n).toList) ++ [Text.newline])).directive =
      .status n := by
  rw [directive_marked (by decide) (by decide), Utf8.decode_encode]
  show Directive.ofStatus (Directive.dropTerminator _) = _
  rw [Directive.dropTerminator_append, Directive.ofStatus, Text.readInt32?_toString h h']

/-! ## A golden spec passes -/

/-- The lines of a golden spec after the first. -/
def goldenBody (status : Int) (stdout stderr : List UInt8) : List SpecLine :=
  ((Text.rawLines stdout).map (marked 0x3E) ++ (Text.rawLines stderr).map (marked 0x2F) ++
    [marked 0x3F (Utf8.encode (toString status).toList)]).map fun line =>
      SpecLine.ofBytes (line ++ [Text.newline])

theorem linesOfSpec_golden {command : String} (h : '\n' ∉ command.toList) (status : Int)
    (stdout stderr : List UInt8) :
    linesOfSpec (golden command status stdout stderr) =
      SpecLine.ofBytes (marked 0x21 (Utf8.encode command.toList) ++ [Text.newline]) ::
        goldenBody status stdout stderr := by
  rw [linesOfSpec, golden,
    Text.physicalLines_flatMap (newline_not_mem_goldenLines h status stdout stderr), List.map_map]
  rfl

theorem map_directive_goldenBody {status : Int} (h : -2 ^ 31 ≤ status) (h' : status < 2 ^ 31)
    (stdout stderr : List UInt8) :
    (goldenBody status stdout stderr).map SpecLine.directive =
      (linesOfBlock (.ofList (Utf8.decode stdout))).map Directive.output ++
        (linesOfBlock (.ofList (Utf8.decode stderr))).map Directive.errorOutput ++
          [.status status] := by
  rw [goldenBody, List.map_map, List.map_append, List.map_append, linesOfBlock_decode,
    linesOfBlock_decode]
  simp only [List.map_map, List.map_singleton, Function.comp_def, directive_output,
    directive_errorOutput, directive_status h h']

/-- The testcase that expects what a command did. -/
def goldenTestcase (command : String) (status : Int) (stdout stderr : List UInt8) : Testcase where
  command := command
  stdout := linesOfBlock (.ofList (Utf8.decode stdout))
  stderr := linesOfBlock (.ofList (Utf8.decode stderr))
  exitStatus := status
  line := 1

theorem testcase_golden {command : String} (hc : Text.trim command.toList = command.toList)
    {status : Int} (h : -2 ^ 31 ≤ status) (h' : status < 2 ^ 31) (stdout stderr : List UInt8) :
    Segment.testcase SpecLine.directive ⟨1, command, goldenBody status stdout stderr⟩ =
      goldenTestcase command status stdout stderr := by
  have hnone {β : Type} (ls : List String) : ls.filterMap (fun _ => (none : Option β)) = [] :=
    List.filterMap_eq_nil_iff.2 fun _ _ => rfl
  simp [Segment.testcase, goldenTestcase, map_directive_goldenBody h h', hc, Directive.input?,
    Directive.output?, Directive.errorOutput?, Directive.status?, Directive.isFaulty,
    Function.comp_def, hnone]

/-- A command that does what its testcase expects is reported only with the verbose option. -/
theorem caseReport_of_holds (verbose : Bool) (label : String) (k : Nat) {tc : Testcase}
    {r : Execution} (h : tc.Holds false r) :
    caseReport { verbose } label k tc (some r) =
      if verbose then [Report.tagged label k ("!" ++ tc.command), Report.tagged label k "ok"]
      else [] := by
  have hchannel (channel : String) {actual expected : List String}
      (hagrees : shown false actual = expected) :
      Report.channelRows label k false channel tc.command actual expected = [] := by
    simp [Report.channelRows, Report.agrees_eq, hagrees, isHidden]
  obtain ⟨hstatus, hstdout, hstderr⟩ := id h
  rw [caseReport, hchannel "stdout" hstdout, hchannel "stderr" hstderr, Report.statusRows,
    if_pos hstatus, if_pos h]
  cases verbose <;> rfl

/-- The lines of a golden spec after the first are neither commands nor blank nor faulty. -/
theorem kind_of_mem_goldenBody {status : Int} (hmin : -2 ^ 31 ≤ status) (hmax : status < 2 ^ 31)
    {stdout stderr : List UInt8} {x : SpecLine} (hx : x ∈ goldenBody status stdout stderr) :
    x.directive.isCommand = false ∧ x.directive ≠ .blank ∧ x.directive.isFaulty = false := by
  have hmem := List.mem_map_of_mem (f := SpecLine.directive) hx
  rw [map_directive_goldenBody hmin hmax, List.mem_append, List.mem_append, List.mem_singleton]
    at hmem
  rcases hmem with (hmem | hmem) | hmem
  · obtain ⟨text, -, htext⟩ := List.mem_map.1 hmem
    simp [← htext, Directive.isCommand, Directive.isFaulty]
  · obtain ⟨text, -, htext⟩ := List.mem_map.1 hmem
    simp [← htext, Directive.isCommand, Directive.isFaulty]
  · simp [hmem, Directive.isCommand, Directive.isFaulty]

section

variable {command : String} (hc : Text.trim command.toList = command.toList)
  (hnewline : '\n' ∉ command.toList) {status : Int} (hmin : -2 ^ 31 ≤ status)
  (hmax : status < 2 ^ 31) (stdout stderr : List UInt8)

/-- The first line of a golden spec. -/
theorem directive_golden (command : String) :
    (SpecLine.ofBytes (marked 0x21 (Utf8.encode command.toList) ++ [Text.newline])).directive =
      .command command := by
  rw [directive_command, Utf8.decode_encode, String.ofList_toList]

include hc hnewline hmin hmax in
theorem stretches_golden :
    stretches SpecLine.directive (linesOfSpec (golden command status stdout stderr)) =
      [⟨[], none⟩, ⟨goldenBody status stdout stderr,
        some (goldenTestcase command status stdout stderr)⟩] := by
  rw [linesOfSpec_golden hnewline, stretches_of_single (directive_golden command) fun _ hx =>
    (kind_of_mem_goldenBody hmin hmax hx).1, Segment.stretch, testcase_golden hc hmin hmax]

include hc hnewline hmin hmax in
theorem testcases_golden :
    testcases SpecLine.directive (linesOfSpec (golden command status stdout stderr)) =
      [goldenTestcase command status stdout stderr] := by
  rw [linesOfSpec_golden hnewline, testcases_of_single (directive_golden command) fun _ hx =>
    (kind_of_mem_goldenBody hmin hmax hx).1, testcase_golden hc hmin hmax]

theorem holds_golden (command : String) (status : Int) :
    (goldenTestcase command status stdout stderr).Holds false (.ofBytes status stdout stderr) := by
  simp [Testcase.Holds, goldenTestcase, Execution.ofBytes, shown, isHidden]

include hmin hmax in
theorem echoes_goldenBody (opts : SpecOptions) :
    echoes opts (goldenBody status stdout stderr) = [] := by
  have hnone : (goldenBody status stdout stderr).filter (fun l => l.directive = .blank) = [] :=
    List.filter_eq_nil_iff.2 fun x hx => by
      simpa using (kind_of_mem_goldenBody hmin hmax hx).2.1
  simp [echoes, hnone]

include hnewline hmin hmax in
theorem diagnostics_golden (label : String) :
    (Draft.empty.answers ((linesOfSpec (golden command status stdout stderr)).map
      SpecLine.directive)).filterMap (Taken.diagnostic? label) = [] := by
  have hopen : OpensBlank id (.command command ::
      (goldenBody status stdout stderr).map SpecLine.directive) :=
    opensBlank_cons_command rfl _
  rw [linesOfSpec_golden hnewline, List.map_cons, directive_golden, diagnostics_eq,
    Draft.rejections_eq_nil (.inr hopen), List.map_nil]
  rw [List.forall_mem_cons]
  refine ⟨rfl, fun x hx => ?_⟩
  obtain ⟨l, hl, rfl⟩ := List.mem_map.1 hx
  exact (kind_of_mem_goldenBody hmin hmax hl).2.2

end

/-- **A golden spec passes.** A command that does what its golden spec was written from passes it,
whatever bytes it writes: no testcase fails, one is run, and nothing is told to the diagnostics. -/
theorem runSpec_golden {σ : Type} [Executor σ] {command : String}
    (hc : Text.trim command.toList = command.toList) (hnewline : '\n' ∉ command.toList)
    {status : Int} (hmin : -2 ^ 31 ≤ status) (hmax : status < 2 ^ 31)
    (stdout stderr : List UInt8) {s s' : σ}
    (hrun : Executor.execute command [] s = .ok (.ofBytes status stdout stderr) s')
    (verbose : Bool) (label out err : String) :
    runSpec { verbose } label (.ofBytes (golden command status stdout stderr))
        ⟨(⟨out, none⟩ : Sink), (⟨err, none⟩ : Sink), s⟩ =
      .ok (0, 1)
        ⟨⟨out ++ blockOfLines ((if verbose then
            [Report.tagged label 1 ("!" ++ command), Report.tagged label 1 "ok"] else []) ++
              [label ++ ": " ++ verdict 0 1]), none⟩,
          ⟨err, none⟩, s'⟩ := by
  have hanswered : Answered
      (testcases SpecLine.directive (linesOfSpec (golden command status stdout stderr))) s
      [some (.ofBytes status stdout stderr)] s' := by
    rw [testcases_golden hc hnewline hmin hmax]
    exact .cons ⟨rfl, hrun⟩ (.nil s')
  have hcount : failureCount false [goldenTestcase command status stdout stderr]
      [some (.ofBytes status stdout stderr)] = 0 := by
    simp [failureCount, Testcase.passes, holds_golden]
  rw [runSpec_of_answered _ _ _ _ _ hanswered, batch, diagnostics_golden hnewline hmin hmax,
    testcases_golden hc hnewline hmin hmax, stretches_golden hc hnewline hmin hmax]
  simp only [hcount, account, echoes_goldenBody hmin hmax, echoes_nil]
  rw [List.head?_cons, Option.join_some, caseReport_of_holds verbose label 1 (holds_golden _ _ _ _)]
  simp [goldenTestcase]

/-- A host at which every command writes bytes that are no UTF-8 and end in a carriage return. -/
structure Garbler where
  deriving DecidableEq, Repr

instance : Executor Garbler where
  execute _ _ := pure (.ofBytes 3 [0xE2, 0x82, 0x0A, 0xFF, 0x0D] [])

theorem runSpec_golden_garbled :
    Text.trim "a".toList = "a".toList ∧ '\n' ∉ "a".toList ∧
    (runSpec {} "t" (.ofBytes (golden "a" 3 [0xE2, 0x82, 0x0A, 0xFF, 0x0D] []))
        ⟨(⟨"", none⟩ : Sink), (⟨"", none⟩ : Sink), ({} : Garbler)⟩) =
      .ok (0, 1) ⟨⟨blockOfLines ["t: OK (1 passed)"], none⟩, ⟨"", none⟩, {}⟩ := by
  refine ⟨by decide, by decide, ?_⟩
  exact runSpec_golden (by decide) (by decide) (by decide) (by decide) _ [] rfl false "t" "" ""

end CommandSpec
