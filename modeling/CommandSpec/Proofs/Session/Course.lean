import CommandSpec.Proofs.Sequence
import CommandSpec.Proofs.Session.Steps
import CommandSpec.Session.Files
import Mathlib.Tactic.Choose

/-!
# The course of a run

A run notices its setting only through the answers it gets. Its *course* is a tree: the run writes a
line, runs a command or asks for more bytes, and each answer leads to the rest of the course. An
action that fails ends it.

**Theorem (`runSpec_course`).** A run of a spec follows one and the same course in every setting.

What holds of every course in some setting, by induction on the course, therefore holds of every
run. The `log` of a course tells which actions were taken, in their order.

Steps of a session that follow courses are closed under sequences (`Follows.bind`), so that each
function of a session needs to say only which sequence it is. The counts of a report belong to the
session, not to its setting: a course starts from given counts and ends with the counts it leaves.
-/

namespace CommandSpec

/-- The setting of a run: two channels, a place where commands are run, and how more bytes of the
spec are got there. -/
structure Setting where
  Out : Type
  Err : Type
  Place : Type
  [report : Channel Out]
  [diagnostics : Channel Err]
  [executor : Executor Place]
  refill : EStateM Fault Place (List UInt8)

namespace Setting

attribute [instance] Setting.report Setting.diagnostics Setting.executor

/-- A console in the setting. -/
abbrev Console (S : Setting) : Type :=
  CommandSpec.Console S.Out S.Err S.Place

/-- Something done at a console. -/
abbrev Running (S : Setting) : Type → Type :=
  CommandSpec.Running S.Out S.Err S.Place

/-- A step of a session. -/
abbrev Step (S : Setting) : Type → Type :=
  Session.Step S.Out S.Err S.Place

/-- A source with some bytes at hand. -/
def source (S : Setting) (bytes : List UInt8) (refills : Nat) : Source S.Place :=
  ⟨bytes, refills, S.refill⟩

end Setting

/-! ## Courses -/

/-- What a run can do that its setting notices. -/
inductive Action where
  /-- Write a line of the report. -/
  | report (text : String)
  /-- Write a line of diagnostics. -/
  | diagnose (text : String)
  /-- Run a command for a line of a spec. -/
  | call (command : String) (stdin : List String) (label : String) (line : Nat)
  /-- Ask for more bytes of a spec. -/
  | read (label : String)
  deriving DecidableEq, Repr

namespace Action

/-- What an action is answered with, unless it fails. -/
def Answer : Action → Type
  | report _ | diagnose _ => Unit
  | call .. => Execution
  | read _ => List UInt8

/-- Take an action. -/
def take (S : Setting) : (a : Action) → S.Running a.Answer
  | report text => Running.report text
  | diagnose text => Running.diagnose text
  | call command stdin label line => fun c =>
    match Executor.execute command stdin c.host with
    | .ok result host => .ok result { c with host }
    | .error e host => .error (e.located label line) { c with host }
  | read label => Running.atHost (fun fault => (RunError.ofFault fault).inFile label) S.refill

section

variable {S : Setting} {c : S.Console} {command : String} {stdin : List String} {host : S.Place}

theorem take_call_of_ok {result : Execution}
    (h : Executor.execute command stdin c.host = .ok result host) (label : String) (line : Nat) :
    take S (.call command stdin label line) c = .ok result { c with host } := by
  simp only [take, h]

theorem take_call_of_error {e : RunError}
    (h : Executor.execute command stdin c.host = .error e host) (label : String) (line : Nat) :
    take S (.call command stdin label line) c = .error (e.located label line) { c with host } := by
  simp only [take, h]

end

end Action

/-- One action after the other, each depending on the answers to those before. -/
inductive Course (α : Type) where
  | done (a : α)
  | act (action : Action) (rest : action.Answer → Course α)

namespace Course

variable {α β : Type}

/-- A course and then another. -/
def bind : Course α → (α → Course β) → Course β
  | done a, f => f a
  | act action rest, f => act action fun answer => (rest answer).bind f

/-- Follow a course. -/
def run (S : Setting) : Course α → S.Running α
  | done a => pure a
  | act action rest => do run S (rest (← action.take S))

/-- The actions that are taken when a course is followed; only the last of them may fail. -/
def log (S : Setting) : Course α → S.Console → List Action
  | done _, _ => []
  | act action rest, c =>
    action ::
      match action.take S c with
      | .ok answer c => log S (rest answer) c
      | .error _ _ => []

theorem run_bind (S : Setting) (c : Course α) (f : α → Course β) :
    (c.bind f).run S = (do (f (← c.run S)).run S) := by
  induction c with
  | done a => rfl
  | act action rest ih =>
    simp only [bind, run, bind_assoc]
    congr 1
    funext answer
    exact ih answer

section

variable {S : Setting} {action : Action} {rest : action.Answer → Course α} {c c' : S.Console}

theorem run_act_of_ok {answer : action.Answer} (h : action.take S c = .ok answer c') :
    (act action rest).run S c = (rest answer).run S c' :=
  bind_of_ok h

theorem run_act_of_error {e : RunError} (h : action.take S c = .error e c') :
    (act action rest).run S c = .error e c' :=
  bind_of_error h

theorem log_act_of_ok {answer : action.Answer} (h : action.take S c = .ok answer c') :
    (act action rest).log S c = action :: (rest answer).log S c' := by
  rw [log, h]

theorem log_act_of_error {e : RunError} (h : action.take S c = .error e c') :
    (act action rest).log S c = [action] := by
  rw [log, h]

end

section

variable {S : Setting} {P : S.Place → Prop}
  (hexecute : ∀ command stdin s, P s → P (finalState (Executor.execute command stdin s)))
  (hrefill : ∀ s, P s → P (finalState (S.refill s)))
include hexecute hrefill

theorem take_keeps (action : Action) {c : S.Console} (hc : P c.host) :
    P (finalState (action.take S c)).host := by
  cases action with
  | report text =>
    cases h : Channel.put (text ++ "\n") c.report <;>
      simpa [Action.take, Running.report, finalState, h] using hc
  | diagnose text =>
    cases h : Channel.put (text ++ "\n") c.diagnostics <;>
      simpa [Action.take, Running.diagnose, finalState, h] using hc
  | call command stdin label line =>
    have hhost := hexecute command stdin c.host hc
    cases h : Executor.execute command stdin c.host <;>
      simpa [Action.take, finalState, h] using hhost
  | read label =>
    have hhost := hrefill c.host hc
    cases h : S.refill c.host <;>
      simpa [Action.take, Running.atHost, finalState, h] using hhost

/-- What commands and more bytes keep of the host, a course keeps. -/
theorem run_keeps (course : Course α) {c : S.Console} (hc : P c.host) :
    P (finalState (course.run S c)).host := by
  induction course generalizing c with
  | done a => exact hc
  | act action rest ih =>
    have htake := take_keeps hexecute hrefill action hc
    cases h : action.take S c with
    | ok answer c' =>
      rw [run_act_of_ok h]
      rw [h] at htake
      exact ih answer htake
    | error e c' =>
      rw [run_act_of_error h]
      rwa [h] at htake

end

end Course

/-! ## Steps that follow a course -/

namespace Session

section

variable {ω δ σ α β : Type}

/-- Do a step of a session at a console, from given counts on. The answer comes with the counts that
the step leaves. -/
def atConsole (t : Tally) (x : Step ω δ σ α) : Running ω δ σ (α × Tally) := fun c =>
  match x ⟨⟨t, c.report⟩, c.diagnostics, c.host⟩ with
  | .ok a s => .ok (a, s.report.tally) ⟨s.report.out, s.diagnostics, s.host⟩
  | .error e s => .error e ⟨s.report.out, s.diagnostics, s.host⟩

theorem atConsole_bind (t : Tally) (x : Step ω δ σ α) (f : α → Step ω δ σ β) :
    atConsole t (x >>= f) = (do
      let p ← atConsole t x
      atConsole p.2 (f p.1)) := by
  funext c
  cases hx : x ⟨⟨t, c.report⟩, c.diagnostics, c.host⟩ with
  | ok a s =>
    have h : atConsole t x c = .ok (a, s.report.tally) ⟨s.report.out, s.diagnostics, s.host⟩ := by
      rw [atConsole, hx]
    rw [bind_of_ok h, atConsole, bind_of_ok hx]
    rfl
  | error e s =>
    have h : atConsole t x c = .error e ⟨s.report.out, s.diagnostics, s.host⟩ := by
      rw [atConsole, hx]
    rw [bind_of_error h, atConsole, bind_of_error hx]

theorem atConsole_reporting_congr {t : Tally} {x y : Reporting ω α}
    (h : ∀ out, x ⟨t, out⟩ = y ⟨t, out⟩) :
    (atConsole t (reporting x) : Running ω δ σ (α × Tally)) = atConsole t (reporting y) := by
  funext c
  unfold atConsole reporting
  rw [h]

theorem reporting_bind (x : Reporting ω α) (f : α → Reporting ω β) :
    (reporting (x >>= f) : Step ω δ σ β) = (do reporting (f (← reporting x))) := by
  funext s
  cases hx : x s.report with
  | ok a r =>
    have h : reporting x s = .ok a { s with report := r } := by rw [reporting, hx]
    rw [bind_of_ok h, reporting, bind_of_ok hx]
    rfl
  | error fault r =>
    have h : reporting x s = .error (.ofFault fault) { s with report := r } := by
      rw [reporting, hx]
    rw [bind_of_error h, reporting, bind_of_error hx]

end

variable {α β : Type}

/-- The step follows a course, the same in every setting. -/
def Follows (x : ∀ S : Setting, S.Step α) : Prop :=
  ∀ t : Tally, ∃ c : Course (α × Tally), ∀ S, atConsole t (x S) = c.run S

theorem Follows.bind {x : ∀ S : Setting, S.Step α} {f : α → ∀ S : Setting, S.Step β}
    (hx : Follows x) (hf : ∀ a, Follows (f a)) : Follows fun S => x S >>= fun a => f a S := by
  intro t
  obtain ⟨c, hc⟩ := hx t
  choose rest hrest using fun p : α × Tally => hf p.1 p.2
  refine ⟨c.bind rest, fun S => ?_⟩
  rw [atConsole_bind, Course.run_bind, hc]
  congr 1
  funext p
  exact hrest p S

theorem follows_pure (a : α) : Follows fun S => (pure a : S.Step α) := fun t =>
  ⟨.done (a, t), fun _ => rfl⟩

/-- A step that is one action follows that action. -/
theorem follows_of_action {x : ∀ S : Setting, S.Step α} (action : Tally → Action)
    (answer : ∀ t, (action t).Answer → α)
    (h : ∀ t S, atConsole t (x S) = (do return (answer t (← (action t).take S), t))) :
    Follows x := fun t =>
  ⟨.act (action t) fun a => .done (answer t a, t), h t⟩

theorem finalState_atConsole {ω δ σ : Type} (t : Tally) (x : Step ω δ σ α) (out : ω) (err : δ)
    (host : σ) :
    finalState (atConsole t x ⟨out, err, host⟩) =
      let s := finalState (x ⟨⟨t, out⟩, err, host⟩)
      ⟨s.report.out, s.diagnostics, s.host⟩ := by
  unfold atConsole
  cases x ⟨⟨t, out⟩, err, host⟩ <;> rfl

/-- What commands and more bytes keep of the host, a step keeps. -/
theorem Follows.keeps {x : ∀ S : Setting, S.Step α} (hx : Follows x) {S : Setting}
    {P : S.Place → Prop}
    (hexecute : ∀ command stdin s, P s → P (finalState (Executor.execute command stdin s)))
    (hrefill : ∀ s, P s → P (finalState (S.refill s))) {s : Session S.Out S.Err S.Place}
    (hs : P s.host) : P (finalState (x S s)).host := by
  obtain ⟨c, hc⟩ := hx s.report.tally
  have hhost : (finalState (x S s)).host =
      (finalState (c.run S ⟨s.report.out, s.diagnostics, s.host⟩)).host := by
    rw [← hc S, finalState_atConsole]
  rw [hhost]
  exact c.run_keeps hexecute hrefill hs

/-! ## Single actions -/

theorem follows_diagnose (text : String) :
    Follows fun S => (diagnose text : S.Step Unit) := by
  refine follows_of_action (fun _ => .diagnose text) (fun _ _ => ()) fun t S => ?_
  funext c
  cases h : Channel.put (text ++ "\n") c.diagnostics <;>
    simp [atConsole, diagnose, Action.take, Running.diagnose, bind, EStateM.bind, h,
      pure, EStateM.pure]

theorem follows_execute (command : String) (stdin : List String) (line : Nat) :
    Follows fun S => (execute command stdin line : S.Step Execution) := by
  refine follows_of_action (fun t => .call command stdin t.label line) (fun _ r => r) fun t S => ?_
  funext c
  cases h : Executor.execute command stdin c.host <;>
    simp [atConsole, execute, Action.take, bind, EStateM.bind, h, pure, EStateM.pure]

theorem follows_refill (bytes : List UInt8) (refills : Nat) :
    Follows fun S => (refill (S.source bytes refills) : S.Step (List UInt8)) := by
  refine follows_of_action (fun t => .read t.label) (fun _ bs => bs) fun t S => ?_
  funext c
  cases h : S.refill c.host <;>
    simp [atConsole, refill, Setting.source, Action.take, Running.atHost, bind, EStateM.bind,
      h, pure, EStateM.pure]

/-! ## Operations on the report -/

/-- The operation on the report follows a course. -/
def Reports (x : ∀ S : Setting, Reporting S.Out α) : Prop :=
  Follows fun S => (reporting (x S) : S.Step α)

theorem Reports.bind {x : ∀ S : Setting, Reporting S.Out α}
    {f : α → ∀ S : Setting, Reporting S.Out β} (hx : Reports x) (hf : ∀ a, Reports (f a)) :
    Reports fun S => x S >>= fun a => f a S := by
  unfold Reports
  simp only [reporting_bind]
  exact Follows.bind hx hf

theorem reports_pure (a : α) : Reports fun S => (pure a : Reporting S.Out α) := fun t =>
  ⟨.done (a, t), fun _ => rfl⟩

theorem reports_count (f : Tally → Tally) :
    Reports fun S => (Report.count f : Reporting S.Out Unit) := fun t =>
  ⟨.done ((), f t), fun _ => rfl⟩

theorem reports_line (text : String) :
    Reports fun S => (Report.line text : Reporting S.Out Unit) := by
  refine follows_of_action (fun _ => .report text) (fun _ _ => ()) fun t S => ?_
  funext c
  cases h : Channel.put (text ++ "\n") c.report <;>
    simp [atConsole, reporting, Report.line, Action.take, Running.report, bind, EStateM.bind, h,
      pure, EStateM.pure]

theorem reports_lines (ls : List String) :
    Reports fun S => (Report.lines ls : Reporting S.Out Unit) := by
  induction ls with
  | nil => exact reports_pure ()
  | cons l ls ih => exact (reports_line l).bind fun _ => ih

/-- A line that depends on the counts is one line, since the counts are given. -/
theorem reports_message (text : String) :
    Reports fun S => (Report.message text : Reporting S.Out Unit) := fun t =>
  reports_line (t.tagged text) t

theorem reports_summary : Reports fun S => (Report.summary : Reporting S.Out Unit) := fun t =>
  reports_line t.summary t

theorem reports_fail (reason : String) :
    Reports fun S => (Report.fail reason : Reporting S.Out Unit) :=
  (reports_count .markFailed).bind fun _ => reports_message _

theorem advance_of_some {ω : Type} [Channel ω] {t : Tally} {text : String}
    (h : t.closing? = some text) (out : ω) :
    Report.advance ⟨t, out⟩ =
      (do Report.message text; Report.count .next : Reporting ω Unit) ⟨t, out⟩ := by
  refine (bind_of_ok (x := Report.counts) (s := ⟨t, out⟩) rfl).trans ?_
  simp only [h]

theorem advance_of_none {ω : Type} [Channel ω] {t : Tally} (h : t.closing? = none) (out : ω) :
    Report.advance ⟨t, out⟩ = (Report.count .next : Reporting ω Unit) ⟨t, out⟩ := by
  refine (bind_of_ok (x := Report.counts) (s := ⟨t, out⟩) rfl).trans ?_
  simp only [h]

/-- Whether a line is written depends on the counts, which are given. -/
theorem reports_advance : Reports fun S => (Report.advance : Reporting S.Out Unit) := by
  intro t
  cases h : t.closing? with
  | some text =>
    obtain ⟨c, hc⟩ := (reports_message text).bind (fun _ => reports_count .next) t
    exact ⟨c, fun S => (atConsole_reporting_congr (advance_of_some h)).trans (hc S)⟩
  | none =>
    obtain ⟨c, hc⟩ := reports_count .next t
    exact ⟨c, fun S => (atConsole_reporting_congr (advance_of_none h)).trans (hc S)⟩

theorem reports_check (channel command : String) (actual expected : List String) (filter : Bool) :
    Reports fun S =>
      (Report.check channel command actual expected filter : Reporting S.Out Bool) := by
  unfold Report.check
  cases Report.agrees filter actual expected with
  | true =>
    cases Report.hasDebug filter actual with
    | true =>
      exact (reports_line _).bind fun _ => (reports_lines _).bind fun _ => reports_pure true
    | false => exact reports_pure true
  | false =>
    exact (reports_fail _).bind fun _ => (reports_line _).bind fun _ =>
      (reports_lines _).bind fun _ => reports_pure false

theorem reports_checkExitStatus (command : String) (actual expected : Int) :
    Reports fun S => (Report.checkExitStatus command actual expected : Reporting S.Out Bool) := by
  unfold Report.checkExitStatus
  by_cases h : actual = expected
  · simp only [h, if_true]
    exact reports_pure true
  · simp only [h, if_false]
    exact (reports_fail _).bind fun _ => reports_pure false

/-! ## Testcases and lines -/

variable (opts : SpecOptions)

theorem follows_perform (tc : Testcase) : Follows fun S => (perform opts tc : S.Step Unit) := by
  cases h : tc.malformed with
  | true =>
    simp only [perform_of_malformed h]
    exact Follows.bind (reports_fail _) fun _ => reports_advance
  | false =>
    simp only [perform_of_wellFormed h]
    refine Follows.bind ?_ fun _ => ?_
    · unfold announce
      cases opts.verbose with
      | true => exact reports_message _
      | false => exact follows_pure ()
    · exact (follows_execute _ _ _).bind fun _ => Follows.bind (reports_check _ _ _ _ _) fun _ =>
        Follows.bind (reports_check _ _ _ _ _) fun _ =>
        Follows.bind (reports_checkExitStatus _ _ _) fun _ => reports_advance

theorem follows_settle (d : Draft) : Follows fun S => (settle opts d : S.Step Unit) := by
  unfold settle
  cases d.pending? with
  | some tc => exact follows_perform opts tc
  | none => exact follows_pure ()

theorem follows_close (d : Draft) : Follows fun S => (close opts d : S.Step (Nat × Nat)) := by
  have hresults : Follows fun S =>
      (do return (← get).report.tally.results : S.Step (Nat × Nat)) := fun t =>
    ⟨.done (t.results, t), fun _ => rfl⟩
  simp only [close_eq]
  exact (follows_settle opts d).bind fun _ => Follows.bind reports_summary fun _ => hresults

theorem follows_handle (taken : Taken) : Follows fun S => (handle opts taken : S.Step Unit) := by
  cases taken with
  | inside => exact follows_pure ()
  | closed tc => exact follows_perform opts tc
  | rejected e => exact fun t => follows_diagnose (e.inFile t.label).render t

theorem follows_takeLine (d : Draft) (l : SpecLine) :
    Follows fun S => (takeLine opts d l : S.Step Draft) := by
  simp only [takeLine_eq]
  refine (follows_handle opts _).bind fun _ => Follows.bind ?_ fun _ => follows_pure _
  unfold echo
  cases opts.verbose && decide (l.directive = .blank) with
  | true => exact reports_line _
  | false => exact follows_pure ()

theorem follows_takeEach (d : Draft) (ls : List SpecLine) :
    Follows fun S => (takeEach opts d ls : S.Step Draft) := by
  induction ls generalizing d with
  | nil => exact follows_pure d
  | cons l ls ih => exact (follows_takeLine opts d l).bind ih

/-- The bytes that come when more are asked for are an answer like any other. -/
theorem follows_takeAll (bytes' : List UInt8) (refills' refills : Nat) (bytes : List UInt8)
    (d : Draft) :
    Follows fun S => (takeAll opts (S.source bytes' refills') refills bytes d : S.Step Draft) := by
  induction refills generalizing bytes d with
  | zero =>
    simp only [takeAll_zero]
    exact follows_takeEach opts d _
  | succ refills ih =>
    simp only [takeAll_succ]
    refine (follows_takeEach opts d _).bind fun d =>
      (follows_refill bytes' refills').bind fun more => ?_
    unfold resume
    split
    · split
      · exact follows_pure d
      · exact (follows_takeLine opts d _).bind fun d => ih [] d
    · exact ih _ d

end Session

/-- A run of a spec is a session that starts without testcases. -/
theorem runSpec_eq_atConsole {ω δ σ : Type} [Channel ω] [Channel δ] [Executor σ]
    (opts : SpecOptions) (label : String) (source : Source σ) :
    (runSpec opts label source : Running ω δ σ (Nat × Nat)) = (do
      return (← Session.atConsole (.start label opts.verbose) (Session.run opts source)).1) := by
  funext c
  unfold runSpec Report.start
  cases h : Session.run opts source
      ⟨⟨.start label opts.verbose, c.report⟩, c.diagnostics, c.host⟩ with
  | ok results s =>
    have hat : Session.atConsole (.start label opts.verbose) (Session.run opts source) c =
        .ok (results, s.report.tally) ⟨s.report.out, s.diagnostics, s.host⟩ := by
      rw [Session.atConsole, h]
    rw [bind_of_ok hat]
    rfl
  | error e s =>
    have hat : Session.atConsole (.start label opts.verbose) (Session.run opts source) c =
        .error e ⟨s.report.out, s.diagnostics, s.host⟩ := by
      rw [Session.atConsole, h]
    rw [bind_of_error hat]

/-- **A run has a course.** Whatever its setting is, a run of a spec follows the course that
its options, its label and the bytes at hand determine. -/
theorem runSpec_course (opts : SpecOptions) (label : String) (bytes : List UInt8) (refills : Nat) :
    ∃ c : Course (Nat × Nat), ∀ S : Setting,
      (runSpec opts label (S.source bytes refills) : S.Running (Nat × Nat)) = c.run S := by
  have hrun : Session.Follows fun S =>
      (Session.run opts (S.source bytes refills) : S.Step (Nat × Nat)) :=
    (Session.follows_takeAll opts bytes refills refills bytes .empty).bind fun d =>
      Session.follows_close opts d
  obtain ⟨c, hc⟩ := hrun (.start label opts.verbose)
  refine ⟨c.bind fun p => .done p.1, fun S => ?_⟩
  rw [runSpec_eq_atConsole, Course.run_bind, ← hc S]
  rfl

/-- What commands and more bytes keep of the host, a run keeps. -/
theorem runSpec_keeps {ω δ σ : Type} [Channel ω] [Channel δ] [Executor σ] {P : σ → Prop}
    {source : Source σ}
    (hexecute : ∀ command stdin s, P s → P (finalState (Executor.execute command stdin s)))
    (hrefill : ∀ s, P s → P (finalState (source.refill s))) (opts : SpecOptions) (label : String)
    {c : Console ω δ σ} (hc : P c.host) : P (finalState (runSpec opts label source c)).host := by
  obtain ⟨course, hcourse⟩ := runSpec_course opts label source.bytes source.refills
  have hrun : runSpec opts label source c = course.run ⟨ω, δ, σ, source.refill⟩ c :=
    congrFun (hcourse ⟨ω, δ, σ, source.refill⟩) c
  rw [hrun]
  exact course.run_keeps (S := ⟨ω, δ, σ, source.refill⟩) hexecute hrefill hc

end CommandSpec
