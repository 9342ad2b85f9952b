import CommandSpec.Proofs.Report.Rows
import CommandSpec.Proofs.Session.Recorder

/-!
# The label of a spec

A spec is called by its label, and by nothing else, wherever it is called at all: at the start of
the lines of the report that tell something of a testcase or sum up, at the start of each line of
diagnostics, and as the file of an error. Only a fault of a channel is told of no file: the run
stops with the fault that the last text of that channel was refused with (`RunError.Names`).

**Theorem (`told_runSpec`).** Whatever comes of a run, what was handed to its channels and the error
that it stopped with are told under the label (`Told`). A run that returns hands over its summary
last.

The label stands in the counts of the report and is never changed there. That, and that everything
told so far was told under it, is what each step of a session keeps (`Speaks`).
-/

namespace CommandSpec

/-! ## What is told under a label -/

/-- The line that sums up a spec of that label. -/
def summaryLine (label : String) (results : Nat × Nat) : String :=
  label ++ ": " ++ verdict results.1 results.2

/-- What is handed to the report of a spec: a line that begins with the label, or one that tells no
more than what a channel of a command or the spec itself holds. -/
inductive ReportText (label : String) : String → Prop
  | tagged (k : Nat) (text : String) : ReportText label (Report.tagged label k text ++ "\n")
  | summary (results : Nat × Nat) : ReportText label (summaryLine label results ++ "\n")
  | diffHeader (channel : String) : ReportText label (Report.diffHeader channel ++ "\n")
  | listingHeader (channel : String) : ReportText label (Report.listingHeader channel ++ "\n")
  | row (row : Row) : ReportText label (row.render ++ "\n")
  | echo (line : List UInt8) (h : (SpecLine.ofBytes line).directive = .blank) :
      ReportText label ((SpecLine.ofBytes line).echo ++ "\n")

/-- What is handed to the diagnostics: an error in the file of that label. -/
def DiagnosticText (label text : String) : Prop :=
  ∃ e : RunError, e.file = some label ∧ text = e.render ++ "\n"

/-- The error is one in the file of that label, or else the fault that the last text of one of the
two channels was refused with. -/
def RunError.Names {ω δ : Type} (label : String) (report : Scribe ω) (diagnostics : Scribe δ)
    (e : RunError) : Prop :=
  e.file = some label ∨ ∃ fault, e = .ofFault fault ∧
    (report.refusal? = some fault ∨ diagnostics.refusal? = some fault)

/-! ## Reports -/

/-- The report counts under the label, and all that was handed over was told under it. -/
structure Report.Speaks {ω : Type} (label : String) (r : Report (Scribe ω)) : Prop where
  named : r.tally.label = label
  texts : ∀ text ∈ r.out.texts, ReportText label text

namespace Report

variable {ω : Type} [Channel ω] {label : String}

theorem finalState_line (text : String) (r : Report (Scribe ω)) :
    finalState (line text r) = { r with out := finalState (Channel.put (text ++ "\n") r.out) } := by
  unfold line
  cases Channel.put (text ++ "\n") r.out <;> rfl

theorem Speaks.line {r : Report (Scribe ω)} (hr : r.Speaks label) {text : String}
    (h : ReportText label (text ++ "\n")) : (finalState (Report.line text r)).Speaks label := by
  rw [finalState_line]
  refine ⟨hr.named, fun text' htext' => ?_⟩
  rw [Scribe.texts_put] at htext'
  rcases List.mem_append.1 htext' with hbefore | hnow
  · exact hr.texts _ hbefore
  · rwa [List.mem_singleton.1 hnow]

/-- The operation keeps what is told under the label, and stops only where a text is refused. -/
abbrev KeepsLabel {α : Type} (label : String) (x : Reporting (Scribe ω) α) : Prop :=
  Keeps (Speaks label) (fun fault r => r.out.refusal? = some fault) x

theorem keepsLabel_line {text : String} (h : ReportText label (text ++ "\n")) :
    KeepsLabel label (line text : Reporting (Scribe ω) Unit) := by
  refine fun r hr => ⟨hr.line h, fun fault r' he => ?_⟩
  cases hput : Channel.put (text ++ "\n") r.out with
  | ok _ out => simp [line, hput] at he
  | error fault' out =>
    simp only [line, hput, EStateM.Result.error.injEq] at he
    obtain ⟨rfl, rfl⟩ := he
    exact Scribe.refusal?_of_error hput

theorem keepsLabel_lines {ls : List String} (h : ∀ l ∈ ls, ReportText label (l ++ "\n")) :
    KeepsLabel label (lines ls : Reporting (Scribe ω) Unit) := by
  induction ls with
  | nil => exact .pure _ _ ()
  | cons l ls ih =>
    exact (keepsLabel_line (h l List.mem_cons_self)).bind fun _ =>
      ih fun l' hl' => h l' (List.mem_cons_of_mem l hl')

theorem keepsLabel_rows (rows : List Row) :
    KeepsLabel label (lines (rows.map Row.render) : Reporting (Scribe ω) Unit) :=
  keepsLabel_lines (List.forall_mem_map.2 fun row _ => .row row)

omit [Channel ω] in
theorem keepsLabel_count {f : Tally → Tally} (h : ∀ t, (f t).label = t.label) :
    KeepsLabel label (count f : Reporting (Scribe ω) Unit) :=
  fun r hr => ⟨⟨(h r.tally).trans hr.named, hr.texts⟩, fun _ _ he => by cases he⟩

theorem keepsLabel_message (text : String) :
    KeepsLabel label (message text : Reporting (Scribe ω) Unit) := by
  intro r hr
  have htext : ReportText label (r.tally.tagged text ++ "\n") := by
    rw [Tally.tagged, hr.named]
    exact .tagged _ _
  exact keepsLabel_line htext r hr

theorem keepsLabel_summary : KeepsLabel label (summary : Reporting (Scribe ω) Unit) := by
  intro r hr
  have htext : ReportText label (r.tally.summary ++ "\n") := by
    rw [Tally.summary, hr.named]
    exact .summary _
  exact keepsLabel_line htext r hr

theorem keepsLabel_fail (reason : String) :
    KeepsLabel label (fail reason : Reporting (Scribe ω) Unit) :=
  (keepsLabel_count (f := .markFailed) fun _ => rfl).bind fun _ => keepsLabel_message _

theorem keepsLabel_advance : KeepsLabel label (advance : Reporting (Scribe ω) Unit) := by
  refine Keeps.bind (f := fun t => _) (fun r hr => ⟨hr, fun _ _ he => by cases he⟩) fun t => ?_
  cases t.closing? with
  | some text => exact (keepsLabel_message text).bind fun _ => keepsLabel_count fun _ => rfl
  | none => exact keepsLabel_count fun _ => rfl

theorem keepsLabel_check (channel command : String) (actual expected : List String)
    (filter : Bool) :
    KeepsLabel label
      (check channel command actual expected filter : Reporting (Scribe ω) Bool) := by
  unfold check
  cases agrees filter actual expected with
  | true =>
    cases hasDebug filter actual with
    | true =>
      exact (keepsLabel_line (.listingHeader channel)).bind fun _ =>
        (keepsLabel_rows _).bind fun _ => .pure _ _ true
    | false => exact .pure _ _ true
  | false =>
    exact (keepsLabel_fail _).bind fun _ => (keepsLabel_line (.diffHeader channel)).bind fun _ =>
      (keepsLabel_rows _).bind fun _ => .pure _ _ false

theorem keepsLabel_checkExitStatus (command : String) (actual expected : Int) :
    KeepsLabel label
      (checkExitStatus command actual expected : Reporting (Scribe ω) Bool) := by
  unfold checkExitStatus
  by_cases h : actual = expected
  · rw [if_pos h]
    exact .pure _ _ true
  · rw [if_neg h]
    exact (keepsLabel_fail _).bind fun _ => .pure _ _ false

end Report

/-! ## Sessions -/

/-- The report and the diagnostics of the session were told under the label. -/
structure Session.Speaks {ω δ σ : Type} (label : String) (s : Session (Scribe ω) (Scribe δ) σ) :
    Prop where
  report : s.report.Speaks label
  diagnostics : ∀ text ∈ s.diagnostics.texts, DiagnosticText label text

namespace Session

variable {ω δ σ α : Type} {label : String}

/-- The step keeps what is told under the label, and its error is one of that label. -/
abbrev KeepsLabel (label : String) (x : Step (Scribe ω) (Scribe δ) σ α) : Prop :=
  Keeps (Speaks label) (fun e s => e.Names label s.report.out s.diagnostics) x

theorem reporting_of_ok {x : Reporting ω α} {s : Session ω δ σ} {a : α} {r : Report ω}
    (h : x s.report = .ok a r) : reporting x s = .ok a { s with report := r } := by
  rw [reporting, h]

theorem reporting_of_error {x : Reporting ω α} {s : Session ω δ σ} {fault : Fault} {r : Report ω}
    (h : x s.report = .error fault r) :
    reporting x s = .error (.ofFault fault) { s with report := r } := by
  rw [reporting, h]

theorem keepsLabel_reporting {x : Reporting (Scribe ω) α} (hx : Report.KeepsLabel label x) :
    KeepsLabel label (reporting x : Step (Scribe ω) (Scribe δ) σ α) := by
  intro s hs
  obtain ⟨hreport, hrefused⟩ := hx s.report hs.report
  cases h : x s.report with
  | ok a r =>
    rw [h] at hreport
    rw [reporting_of_ok h]
    exact ⟨⟨hreport, hs.diagnostics⟩, fun _ _ he => by cases he⟩
  | error fault r =>
    rw [h] at hreport
    rw [reporting_of_error h]
    exact ⟨⟨hreport, hs.diagnostics⟩, fun _ _ he => by
      cases he
      exact .inr ⟨fault, rfl, .inl (hrefused fault r h)⟩⟩

theorem keepsLabel_diagnose [Channel δ] {text : String} (h : DiagnosticText label (text ++ "\n")) :
    KeepsLabel label (diagnose text : Step (Scribe ω) (Scribe δ) σ Unit) := by
  intro s hs
  have htexts := Scribe.texts_put (text ++ "\n") s.diagnostics
  have htold : ∀ text' ∈ s.diagnostics.texts ++ [text ++ "\n"], DiagnosticText label text' :=
    List.forall_mem_append.2 ⟨hs.diagnostics, List.forall_mem_singleton.2 h⟩
  unfold diagnose
  cases hput : Channel.put (text ++ "\n") s.diagnostics with
  | ok _ diagnostics =>
    rw [hput] at htexts
    rw [← htexts] at htold
    exact ⟨⟨hs.report, htold⟩, fun _ _ he => by cases he⟩
  | error fault diagnostics =>
    rw [hput] at htexts
    rw [← htexts] at htold
    exact ⟨⟨hs.report, htold⟩, fun _ _ he => by
      cases he
      exact .inr ⟨fault, rfl, .inr (Scribe.refusal?_of_error hput)⟩⟩

/-- An error at the host is placed in the file that the counts name. -/
theorem keepsLabel_refill (source : Source σ) :
    KeepsLabel label (refill source : Step (Scribe ω) (Scribe δ) σ (List UInt8)) := by
  intro s hs
  unfold refill
  cases source.refill s.host with
  | ok bytes host => exact ⟨⟨hs.report, hs.diagnostics⟩, fun _ _ he => by cases he⟩
  | error fault host =>
    exact ⟨⟨hs.report, hs.diagnostics⟩, fun _ _ he => by
      cases he
      exact .inl (congrArg some hs.report.named)⟩

variable [Executor σ]

theorem keepsLabel_execute (command : String) (stdin : List String) (line : Nat) :
    KeepsLabel label (execute command stdin line : Step (Scribe ω) (Scribe δ) σ Execution) := by
  intro s hs
  unfold execute
  cases Executor.execute command stdin s.host with
  | ok result host => exact ⟨⟨hs.report, hs.diagnostics⟩, fun _ _ he => by cases he⟩
  | error e host =>
    exact ⟨⟨hs.report, hs.diagnostics⟩, fun _ _ he => by
      cases he
      exact .inl (congrArg some hs.report.named)⟩

variable [Channel ω] (opts : SpecOptions)

theorem keepsLabel_perform (tc : Testcase) :
    KeepsLabel label (perform opts tc : Step (Scribe ω) (Scribe δ) σ Unit) := by
  cases h : tc.malformed with
  | true =>
    rw [perform_of_malformed h]
    exact (keepsLabel_reporting (Report.keepsLabel_fail _)).bind fun _ =>
      keepsLabel_reporting Report.keepsLabel_advance
  | false =>
    rw [perform_of_wellFormed h]
    refine Keeps.bind ?_ fun _ => (keepsLabel_execute _ _ _).bind fun _ =>
      (keepsLabel_reporting (Report.keepsLabel_check _ _ _ _ _)).bind fun _ =>
      (keepsLabel_reporting (Report.keepsLabel_check _ _ _ _ _)).bind fun _ =>
      (keepsLabel_reporting (Report.keepsLabel_checkExitStatus _ _ _)).bind fun _ =>
      keepsLabel_reporting Report.keepsLabel_advance
    unfold announce
    cases opts.verbose with
    | true => exact keepsLabel_reporting (Report.keepsLabel_message _)
    | false => exact .pure _ _ ()

theorem keepsLabel_settle (d : Draft) :
    KeepsLabel label (settle opts d : Step (Scribe ω) (Scribe δ) σ Unit) := by
  unfold settle
  cases d.pending? with
  | some tc => exact keepsLabel_perform opts tc
  | none => exact .pure _ _ ()

variable [Channel δ]

/-- What is told of a rejected line is told of the file that the counts name. -/
theorem keepsLabel_handle (taken : Taken) :
    KeepsLabel label (handle opts taken : Step (Scribe ω) (Scribe δ) σ Unit) := by
  cases taken with
  | inside => exact .pure _ _ ()
  | closed tc => exact keepsLabel_perform opts tc
  | rejected e =>
    intro s hs
    have htext : DiagnosticText label ((e.inFile s.report.tally.label).render ++ "\n") :=
      ⟨e.inFile s.report.tally.label, congrArg some hs.report.named, rfl⟩
    exact keepsLabel_diagnose htext s hs

theorem keepsLabel_takeLine (d : Draft) (line : List UInt8) :
    KeepsLabel label
      (takeLine opts d (.ofBytes line) : Step (Scribe ω) (Scribe δ) σ Draft) := by
  rw [takeLine_eq]
  refine (keepsLabel_handle opts _).bind fun _ => Keeps.bind ?_ fun _ => .pure _ _ _
  unfold echo
  split
  next h =>
    have hblank : (SpecLine.ofBytes line).directive = .blank := by simp_all
    exact keepsLabel_reporting (Report.keepsLabel_line (.echo line hblank))
  next => exact .pure _ _ ()

theorem keepsLabel_takeEach (d : Draft) (ls : List (List UInt8)) :
    KeepsLabel label
      (takeEach opts d (ls.map .ofBytes) : Step (Scribe ω) (Scribe δ) σ Draft) := by
  induction ls generalizing d with
  | nil => exact .pure _ _ d
  | cons l ls ih => exact (keepsLabel_takeLine opts d l).bind ih

theorem keepsLabel_takeAll (source : Source σ) (refills : Nat) (bytes : List UInt8) (d : Draft) :
    KeepsLabel label
      (takeAll opts source refills bytes d : Step (Scribe ω) (Scribe δ) σ Draft) := by
  induction refills generalizing bytes d with
  | zero =>
    rw [takeAll_zero]
    exact keepsLabel_takeEach opts d _
  | succ refills ih =>
    rw [takeAll_succ]
    refine (keepsLabel_takeEach opts d _).bind fun d =>
      (keepsLabel_refill source).bind fun more => ?_
    unfold resume
    split
    · split
      · exact .pure _ _ d
      · exact (keepsLabel_takeLine opts d _).bind fun d => ih [] d
    · exact ih _ d

omit [Executor σ] [Channel δ] in
theorem keepsLabel_conclude :
    KeepsLabel label (conclude : Step (Scribe ω) (Scribe δ) σ (Nat × Nat)) :=
  (keepsLabel_reporting Report.keepsLabel_summary).bind fun _ =>
    Keeps.bind (f := fun s => _) (fun _ hs => ⟨hs, fun _ _ he => by cases he⟩) fun _ => .pure _ _ _

omit [Executor σ] [Channel δ] in
/-- The summary is handed over last. -/
theorem ends_conclude {s : Session (Scribe ω) (Scribe δ) σ} (hs : s.Speaks label) :
    Ends (fun _ => True) conclude s fun results s' =>
      s'.report.out.texts.getLast? = some (summaryLine label results ++ "\n") := by
  have hline := Report.finalState_line s.report.tally.summary s.report
  cases h : Report.line s.report.tally.summary s.report with
  | ok _ r =>
    have hsummary : reporting Report.summary s = .ok () { s with report := r } :=
      reporting_of_ok h
    rw [h] at hline
    obtain rfl : r = _ := hline
    refine .of_ok (bind_of_ok hsummary) ?_
    rw [Scribe.texts_put, List.getLast?_concat, summaryLine, ← hs.report.named]
    rfl
  | error fault r =>
    have hsummary : reporting Report.summary s = .error (.ofFault fault) { s with report := r } :=
      reporting_of_error h
    exact .of_error (bind_of_error hsummary) trivial

/-- What a whole session tells, it tells under the label. -/
theorem keepsLabel_run (source : Source σ) :
    KeepsLabel label (run opts source : Step (Scribe ω) (Scribe δ) σ (Nat × Nat)) := by
  rw [run_eq]
  exact (keepsLabel_takeAll opts source _ _ _).bind fun d =>
    (keepsLabel_settle opts d).bind fun _ => keepsLabel_conclude

theorem ends_run (source : Source σ) {s : Session (Scribe ω) (Scribe δ) σ}
    (hs : s.Speaks label) :
    Ends (fun _ => True) (run opts source) s fun results s' =>
      s'.report.out.texts.getLast? = some (summaryLine label results ++ "\n") := by
  rw [run_eq]
  exact ((keepsLabel_takeAll opts source _ _ _).ends hs).bind fun d s hs =>
    ((keepsLabel_settle opts d).ends hs).bind fun _ s hs => ends_conclude hs

end Session

/-! ## Runs -/

/-- What a run of a spec tells, it tells under the label: everything that it handed to its channels
and the error that it stopped with. If it returns, it handed over its summary last. -/
structure Told {ω δ σ : Type} (label : String)
    (result : EStateM.Result RunError (Console (Scribe ω) (Scribe δ) σ) (Nat × Nat)) : Prop where
  report : ∀ text ∈ (finalState result).report.texts, ReportText label text
  diagnostics : ∀ text ∈ (finalState result).diagnostics.texts, DiagnosticText label text
  error : ∀ e c, result = .error e c → e.Names label c.report c.diagnostics
  summary : ∀ results c, result = .ok results c →
    c.report.texts.getLast? = some (summaryLine label results ++ "\n")

/-- **A run is told under its label.** -/
theorem told_runSpec {ω δ σ : Type} [Channel ω] [Channel δ] [Executor σ] (opts : SpecOptions)
    (label : String) (source : Source σ) {c : Console (Scribe ω) (Scribe δ) σ}
    (hreport : ∀ text ∈ c.report.texts, ReportText label text)
    (hdiagnostics : ∀ text ∈ c.diagnostics.texts, DiagnosticText label text) :
    Told label (runSpec opts label source c) := by
  have hs : Session.Speaks label
      ⟨.start label opts.verbose c.report, c.diagnostics, c.host⟩ :=
    ⟨⟨rfl, hreport⟩, hdiagnostics⟩
  have hrun := Session.keepsLabel_run opts source _ hs
  have hends := Session.ends_run opts source hs
  unfold Ends at hends
  unfold runSpec
  cases h : Session.run opts source
      ⟨.start label opts.verbose c.report, c.diagnostics, c.host⟩ with
  | ok results s =>
    rw [h] at hrun hends
    refine ⟨hrun.1.report.texts, hrun.1.diagnostics, fun e c he => ?_, fun results' c he => ?_⟩
    · cases he
    · cases he
      exact hends
  | error e s =>
    rw [h] at hrun
    refine ⟨hrun.1.report.texts, hrun.1.diagnostics, fun e' c he => ?_, fun results c he => ?_⟩
    · cases he
      exact hrun.2 e s rfl
    · cases he

end CommandSpec
