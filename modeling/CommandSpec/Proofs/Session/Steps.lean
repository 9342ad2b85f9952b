import CommandSpec.Proofs.Sequence
import CommandSpec.Proofs.Spec.Segment
import CommandSpec.Session.Files

/-!
# The steps of a session

Each step of a session is a sequence of smaller ones. The equations below say which, so that what is
proved of the smaller steps carries over to the larger ones by the rule for sequences. For a spec
file there is one equation for each way it can go at the host.
-/

namespace CommandSpec.Session

variable {ω δ σ : Type} [Channel ω] [Executor σ]

/-- Run the command of a testcase, check what it did and close the testcase. -/
def examine (opts : SpecOptions) (tc : Testcase) : Step ω δ σ Unit := do
  let result ← execute tc.command tc.stdin tc.line
  let _ ← reporting (Report.check "stdout" tc.command result.stdout tc.stdout opts.filterDebug)
  let _ ← reporting (Report.check "stderr" tc.command result.stderr tc.stderr opts.filterDebug)
  let _ ← reporting (Report.checkExitStatus tc.command result.exitStatus tc.exitStatus)
  reporting Report.advance

/-- Announce a testcase with the verbose option. -/
def announce (opts : SpecOptions) (tc : Testcase) : Step ω δ σ Unit :=
  if opts.verbose then reporting (Report.message ("!" ++ tc.command)) else pure ()

/-- Sum up a spec whose last testcase was run. -/
def conclude : Step ω δ σ (Nat × Nat) := do
  reporting Report.summary
  return (← get).report.tally.results

/-- Run the testcase that the draft holds, if it holds one. -/
def settle (opts : SpecOptions) (d : Draft) : Step ω δ σ Unit :=
  match d.pending? with
  | some tc => perform opts tc
  | none => pure ()

theorem perform_of_malformed {tc : Testcase} (h : tc.malformed = true) (opts : SpecOptions) :
    (perform opts tc : Step ω δ σ Unit) = (do
      reporting (Report.fail
        ("malformed testcase at line " ++ toString tc.line ++ ", not executed"))
      reporting Report.advance) := by
  unfold perform
  simp only [h, if_true]

theorem perform_of_wellFormed {tc : Testcase} (h : tc.malformed = false) (opts : SpecOptions) :
    (perform opts tc : Step ω δ σ Unit) = (do
      announce opts tc
      examine opts tc) := by
  unfold perform announce
  simp only [h, Bool.false_eq_true, if_false]
  cases opts.verbose <;> rfl

theorem close_eq (opts : SpecOptions) (d : Draft) :
    (close opts d : Step ω δ σ (Nat × Nat)) = (do
      settle opts d
      conclude) := by
  unfold close settle
  cases d.pending? <;> rfl

variable [Channel δ]

/-- Echo a blank line or a comment with the verbose option. -/
def echo (opts : SpecOptions) (l : SpecLine) : Step ω δ σ Unit :=
  if opts.verbose && l.directive = .blank then reporting (Report.line l.echo) else pure ()

/-- Take decoded lines. -/
def takeEach (opts : SpecOptions) : Draft → List SpecLine → Step ω δ σ Draft
  | d, [] => return d
  | d, l :: ls => do takeEach opts (← takeLine opts d l) ls

theorem takeEach_append (opts : SpecOptions) (d : Draft) (ls ms : List SpecLine) :
    (takeEach opts d (ls ++ ms) : Step ω δ σ Draft) =
      (do takeEach opts (← takeEach opts d ls) ms) := by
  induction ls generalizing d with
  | nil => simp [takeEach]
  | cons l ls ih => simp only [List.cons_append, takeEach, ih, bind_assoc]

theorem takeLine_eq (opts : SpecOptions) (d : Draft) (l : SpecLine) :
    (takeLine opts d l : Step ω δ σ Draft) = do
      handle opts (d.take l.directive).1
      echo opts l
      return (d.take l.directive).2 := by
  unfold takeLine echo
  cases h : opts.verbose && decide (l.directive = .blank) <;> simp

/-- A `!` line settles the draft. -/
theorem takeLine_command {l : SpecLine} {text : String} (h : l.directive = .command text)
    (opts : SpecOptions) (d : Draft) :
    (takeLine opts d l : Step ω δ σ Draft) = do
      settle opts d
      return ⟨.start text (d.line + 1), true, d.line + 1⟩ := by
  rw [takeLine_eq, h, Draft.take_command]
  cases hp : d.pending? <;> simp [handle, settle, echo, h, hp]

theorem takeLines_eq_takeEach (opts : SpecOptions) (d : Draft) (ls : List (List UInt8)) :
    (takeLines opts d ls : Step ω δ σ Draft) = takeEach opts d (ls.map .ofBytes) := by
  induction ls generalizing d with
  | nil => rfl
  | cons l ls ih => simp only [takeLines, takeEach, List.map_cons, ih]

theorem takeAll_zero (opts : SpecOptions) (source : Source σ) (bytes : List UInt8) (d : Draft) :
    (takeAll opts source 0 bytes d : Step ω δ σ Draft) =
      takeEach opts d ((Text.physicalLines bytes).map .ofBytes) :=
  takeLines_eq_takeEach opts d _

/-- Go on where more bytes have been asked for and `rest` was left over. -/
def resume (opts : SpecOptions) (source : Source σ) (refills : Nat) (rest more : List UInt8)
    (d : Draft) : Step ω δ σ Draft :=
  if more = [] then
    if rest = [] then return d
    else do takeAll opts source refills [] (← takeLine opts d (.ofBytes rest))
  else takeAll opts source refills (rest ++ more) d

theorem takeAll_succ (opts : SpecOptions) (source : Source σ) (refills : Nat)
    (bytes : List UInt8) (d : Draft) :
    (takeAll opts source (refills + 1) bytes d : Step ω δ σ Draft) = (do
      let d ← takeEach opts d ((Text.splitClosed bytes).1.map .ofBytes)
      let more ← refill source
      resume opts source refills (Text.splitClosed bytes).2 more d) := by
  simp only [takeAll, takeLines_eq_takeEach]
  congr 1
  funext d
  congr 1
  funext more
  cases more <;> rfl

theorem run_eq (opts : SpecOptions) (source : Source σ) :
    (run opts source : Step ω δ σ (Nat × Nat)) = (do
      settle opts (← takeAll opts source source.refills source.bytes .empty)
      conclude) := by
  simp only [run, close_eq]

end CommandSpec.Session

namespace CommandSpec

/-! ## At the parts of a console -/

namespace Running

variable {ω δ σ α : Type} {action : EStateM Fault σ α} {c : Console ω δ σ} {s : σ} {fault : Fault}
  {text : String} {out : ω} {err : δ}

theorem report_of_ok [Channel ω] (h : Channel.put (text ++ "\n") c.report = .ok () out) :
    report text c = .ok () { c with report := out } := by
  rw [report, h]

theorem report_of_error [Channel ω] (h : Channel.put (text ++ "\n") c.report = .error fault out) :
    report text c = .error (.ofFault fault) { c with report := out } := by
  rw [report, h]

theorem diagnose_of_ok [Channel δ] (h : Channel.put (text ++ "\n") c.diagnostics = .ok () err) :
    diagnose text c = .ok () { c with diagnostics := err } := by
  rw [diagnose, h]

theorem diagnose_of_error [Channel δ]
    (h : Channel.put (text ++ "\n") c.diagnostics = .error fault err) :
    diagnose text c = .error (.ofFault fault) { c with diagnostics := err } := by
  rw [diagnose, h]

theorem atHost_of_ok {a : α} (h : action c.host = .ok a s) (toError : Fault → RunError) :
    atHost toError action c = .ok a { c with host := s } := by
  rw [atHost, h]

theorem atHost_of_error (h : action c.host = .error fault s) (toError : Fault → RunError) :
    atHost toError action c = .error (toError fault) { c with host := s } := by
  rw [atHost, h]

theorem tryHost_of_ok {a : α} (h : action c.host = .ok a s) :
    tryHost action c = .ok (.ok a) { c with host := s } := by
  rw [tryHost, h]

theorem tryHost_of_error (h : action c.host = .error fault s) :
    tryHost action c = .ok (.error fault) { c with host := s } := by
  rw [tryHost, h]

theorem host_diagnose [Channel δ] (text : String) (c : Console ω δ σ) :
    (finalState (diagnose text c)).host = c.host := by
  unfold diagnose
  cases Channel.put (text ++ "\n") c.diagnostics <;> rfl

theorem host_report [Channel ω] (text : String) (c : Console ω δ σ) :
    (finalState (report text c)).host = c.host := by
  unfold report
  cases Channel.put (text ++ "\n") c.report <;> rfl

end Running

/-! ## Spec files -/

section

variable {ω δ σ : Type} [Channel ω] [Channel δ] [Host σ] (opts : RunOptions)
  (label directory name : String) {c : Console ω δ σ} {s s' s'' : σ} {previous : String}
  {fault : Fault}

open Running

theorem runOpened_of_ok {path : String} {source : Source σ}
    (h : Host.openSpec path c.host = .ok source s) :
    runOpened opts label path c = runSpec opts.toSpecOptions label source { c with host := s } :=
  bind_of_ok (atHost_of_ok h _)

theorem runOpened_of_error {path : String} (h : Host.openSpec path c.host = .error fault s) :
    runOpened opts label path c =
      .error ((RunError.ofFault fault).inFile label) { c with host := s } :=
  bind_of_error (atHost_of_error h _)

/-- The current directory is not known. -/
theorem runInside_of_lost (h : Host.currentDirectory c.host = .error fault s) :
    runInside opts label directory name c = .error (.ofFault fault) { c with host := s } :=
  bind_of_error (atHost_of_error h _)

/-- The directory cannot be entered. -/
theorem runInside_of_refused (h : Host.currentDirectory c.host = .ok previous s)
    (h' : Host.enter directory s = .error fault s') :
    runInside opts label directory name c = (do
      diagnose ((RunError.cannotEnter directory fault).inFile label).render
      return directoryPenalty) { c with host := s' } :=
  (bind_of_ok (atHost_of_ok h _)).trans (bind_of_ok (tryHost_of_error h'))

/-- The directory is entered. -/
theorem runInside_of_entered (h : Host.currentDirectory c.host = .ok previous s)
    (h' : Host.enter directory s = .ok () s') :
    runInside opts label directory name c = (do
      let results ← attempt (runOpened opts label name)
      atHost (fun fault => (RunError.cannotReturn previous fault).inFile label)
        (Host.enter previous)
      match results with
      | .ok results => return results
      | .error e => throw e) { c with host := s' } :=
  (bind_of_ok (atHost_of_ok h _)).trans (bind_of_ok (tryHost_of_ok h'))

/-- The directory is entered and left again: what came of the file in between is the answer. -/
theorem runInside_of_left (h : Host.currentDirectory c.host = .ok previous s)
    (h' : Host.enter directory s = .ok () s')
    (h'' : Host.enter previous
      (finalState (runOpened opts label name { c with host := s' })).host = .ok () s'') :
    runInside opts label directory name c =
      seen (fun c => { c with host := s'' }) (runOpened opts label name { c with host := s' }) := by
  rw [runInside_of_entered opts label directory name h h']
  cases hr : runOpened opts label name { c with host := s' } with
  | ok results c' =>
    have hattempt : attempt (runOpened opts label name) { c with host := s' } =
        .ok (.ok results) c' := by
      rw [attempt, hr]
    rw [hr] at h''
    exact (bind_of_ok hattempt).trans (bind_of_ok (atHost_of_ok h'' _))
  | error e c' =>
    have hattempt : attempt (runOpened opts label name) { c with host := s' } =
        .ok (.error e) c' := by
      rw [attempt, hr]
    rw [hr] at h''
    exact (bind_of_ok hattempt).trans (bind_of_ok (atHost_of_ok h'' _))

/-- The directory is entered and cannot be left again. -/
theorem runInside_of_stuck (h : Host.currentDirectory c.host = .ok previous s)
    (h' : Host.enter directory s = .ok () s')
    (h'' : Host.enter previous
      (finalState (runOpened opts label name { c with host := s' })).host = .error fault s'') :
    runInside opts label directory name c =
      .error ((RunError.cannotReturn previous fault).inFile label)
        { finalState (runOpened opts label name { c with host := s' }) with host := s'' } := by
  rw [runInside_of_entered opts label directory name h h']
  obtain ⟨results, hattempt⟩ : ∃ results,
      attempt (runOpened opts label name) { c with host := s' } =
        .ok results (finalState (runOpened opts label name { c with host := s' })) := by
    unfold attempt
    cases runOpened opts label name { c with host := s' } <;> exact ⟨_, rfl⟩
  exact (bind_of_ok hattempt).trans (bind_of_error (atHost_of_error h'' _))

end

end CommandSpec
