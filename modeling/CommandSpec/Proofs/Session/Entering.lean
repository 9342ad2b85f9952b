import CommandSpec.Proofs.Path
import CommandSpec.Proofs.Session.Label
import CommandSpec.Proofs.Session.Place

/-!
# Running a file from inside its directory

With the option to change directories, a path that has several components, the last of which is a
name, is split into that name and a directory with the components before it. Every other path, and
every path without the option, is opened as it is.

**Theorem (`runSpecFile_enters`).** Exactly the directory of the path is entered and exactly its
name is opened there, as far as the host lets it come (`Enters`). Wherever the file is opened,
everything that the run tells is told under the path itself, and so is the error that it stops with.
Two faults are told of no file: that of a channel, and that of the current directory.
-/

namespace CommandSpec

/-! ## Consoles that are watched -/

section

variable {ω δ σ π : Type}

/-- The console with everything written down from now on: what is looked up at its host, and what is
handed to its channels. -/
def Console.watched (place : σ → π) (c : Console ω δ σ) :
    Console (Scribe ω) (Scribe δ) (Tracker place) :=
  ⟨{ out := c.report }, { out := c.diagnostics }, { host := c.host }⟩

/-- A console that is watched, seen as it is. -/
def Console.unwatched {place : σ → π} (c : Console (Scribe ω) (Scribe δ) (Tracker place)) :
    Console ω δ σ :=
  c.map Scribe.out Scribe.out Tracker.host

end

/-! ## What comes of a file -/

section

variable {ω δ σ π : Type}

/-- The current directory is not known: nothing is told, and the fault ends the run. -/
structure Lost (fault : Fault)
    (result : EStateM.Result RunError (Console (Scribe ω) (Scribe δ) σ) (Nat × Nat)) : Prop where
  report : (finalState result).report.texts = []
  diagnostics : (finalState result).diagnostics.texts = []
  error : ∃ c, result = .error (.ofFault fault) c

/-- The directory of a file could not be entered: this is told under the label of the file, which
costs its penalty and reports nothing. Only that the diagnostics refuse it can end the run. -/
structure Barred (label directory : String) (fault : Fault)
    (result : EStateM.Result RunError (Console (Scribe ω) (Scribe δ) σ) (Nat × Nat)) : Prop where
  report : (finalState result).report.texts = []
  diagnostics : (finalState result).diagnostics.texts =
    [((RunError.cannotEnter directory fault).inFile label).render ++ "\n"]
  error : ∀ e c, result = .error e c →
    ∃ fault', e = .ofFault fault' ∧ c.diagnostics.refusal? = some fault'
  penalty : ∀ results c, result = .ok results c → results = directoryPenalty

/-- How far a file with a directory and a name comes at a host, from its state `s` on. -/
inductive Enters [Host σ] {place : σ → π} (label : String) (s : σ) (directory name : String)
    (result : EStateM.Result RunError (Console (Scribe ω) (Scribe δ) (Tracker place)) (Nat × Nat)) :
    Prop
  /-- The current directory is not known, and nothing is looked up. -/
  | lost {fault : Fault} {s' : σ} (h : Host.currentDirectory s = .error fault s')
    (visits : visitsOf result = []) (lost : Lost fault result)
  /-- The directory cannot be entered. -/
  | refused {previous : String} {s' s'' : σ} {fault : Fault}
    (h : Host.currentDirectory s = .ok previous s')
    (h' : Host.enter directory s' = .error fault s'')
    (visits : visitsOf result = [.entering directory (place s')])
    (barred : Barred label directory fault result)
  /-- The directory is entered, the name is opened there, and the directory before is entered
  again. -/
  | entered {previous : String} {s' s'' : σ} (later : σ)
    (h : Host.currentDirectory s = .ok previous s') (h' : Host.enter directory s' = .ok () s'')
    (visits : visitsOf result = [.entering directory (place s'), .opening name (place s''),
      .entering previous (place later)])
    (told : Told label result)

end

/-! ## At a tracker -/

namespace Tracker

variable {σ π : Type} [Host σ] {place : σ → π} {t : Tracker place} {s : σ} {directory : String}
  {fault : Fault}

theorem currentDirectory_of_ok (h : Host.currentDirectory t.host = .ok directory s) :
    Host.currentDirectory t = .ok directory ⟨s, t.visits⟩ := by
  simp [Host.currentDirectory, follow, h]

theorem currentDirectory_of_error (h : Host.currentDirectory t.host = .error fault s) :
    Host.currentDirectory t = .error fault ⟨s, t.visits⟩ := by
  simp [Host.currentDirectory, follow, h]

theorem enter_of_ok (h : Host.enter directory t.host = .ok () s) :
    Host.enter directory t = .ok () ⟨s, t.visits ++ [.entering directory (place t.host)]⟩ := by
  simp [Host.enter, follow, h]

theorem enter_of_error (h : Host.enter directory t.host = .error fault s) :
    Host.enter directory t =
      .error fault ⟨s, t.visits ++ [.entering directory (place t.host)]⟩ := by
  simp [Host.enter, follow, h]

/-- Commands and sources look nothing up. -/
theorem visits_runOpened {ω δ : Type} [Channel ω] [Channel δ] (opts : RunOptions)
    (label path : String) (c : Console ω δ (Tracker place)) :
    (finalState (runOpened opts label path c)).host.visits =
      c.host.visits ++ [.opening path (place c.host.host)] := by
  have hkeep {ε α : Type} (action : EStateM ε σ α) (vs : List (Visit π)) (t : Tracker place)
      (ht : t.visits = vs) : (finalState (follow (fun _ => []) action t)).visits = vs := by
    rw [finalState_follow, List.append_nil, ht]
  cases h : Host.openSpec path c.host.host with
  | ok source s =>
    rw [runOpened_of_ok opts label (openSpec_of_ok h)]
    exact runSpec_keeps (P := fun t : Tracker place => t.visits = _)
      (fun _ _ t ht => hkeep _ _ t ht) (fun t ht => hkeep _ _ t ht) _ label rfl
  | error fault s => rw [runOpened_of_error opts label (openSpec_of_error h)]; rfl

end Tracker

/-! ## What is told -/

section

variable {ω δ σ π : Type} {label : String}

theorem Told.seen {result : EStateM.Result RunError (Console (Scribe ω) (Scribe δ) σ) (Nat × Nat)}
    (h : Told label result) (s : σ) :
    Told label (seen (fun c => { c with host := s }) result) := by
  cases result with
  | ok results c =>
    refine ⟨h.report, h.diagnostics, fun e c' he => (by cases he), fun results' c' he => ?_⟩
    cases he
    exact h.summary results c rfl
  | error e c =>
    refine ⟨h.report, h.diagnostics, fun e' c' he => ?_, fun results c' he => (by cases he)⟩
    cases he
    exact h.error e c rfl

/-- An error is told under the label if it is one in the file of that label. -/
theorem told_error {e : RunError} {c : Console (Scribe ω) (Scribe δ) σ}
    (hreport : ∀ text ∈ c.report.texts, ReportText label text)
    (hdiagnostics : ∀ text ∈ c.diagnostics.texts, DiagnosticText label text)
    (he : e.file = some label) : Told label (.error e c) := by
  refine ⟨hreport, hdiagnostics, fun e' c' h => ?_, fun results c' h => (by cases h)⟩
  cases h
  exact .inl he

variable [Channel ω] [Channel δ] [Host σ]

theorem told_runOpened (opts : RunOptions) (label path : String)
    {c : Console (Scribe ω) (Scribe δ) σ} (hreport : c.report.texts = [])
    (hdiagnostics : c.diagnostics.texts = []) :
    Told label (runOpened opts label path c) := by
  cases h : Host.openSpec path c.host with
  | ok source s =>
    rw [runOpened_of_ok opts label h]
    exact told_runSpec _ label source (by simp [hreport]) (by simp [hdiagnostics])
  | error fault s =>
    rw [runOpened_of_error opts label h]
    exact told_error (by simp [hreport]) (by simp [hdiagnostics]) rfl

omit [Channel ω] [Host σ] in
theorem barred_of_diagnose (directory : String) (fault : Fault)
    {c : Console (Scribe ω) (Scribe δ) σ} (hreport : c.report.texts = [])
    (hdiagnostics : c.diagnostics.texts = []) :
    Barred label directory fault ((do
      Running.diagnose ((RunError.cannotEnter directory fault).inFile label).render
      return directoryPenalty) c) := by
  have htexts := Scribe.texts_put
    (((RunError.cannotEnter directory fault).inFile label).render ++ "\n") c.diagnostics
  rw [hdiagnostics, List.nil_append] at htexts
  cases h : Channel.put (((RunError.cannotEnter directory fault).inFile label).render ++ "\n")
      c.diagnostics with
  | ok _ diagnostics =>
    rw [h] at htexts
    rw [bind_of_ok (Running.diagnose_of_ok h)]
    refine ⟨hreport, htexts, fun e c' he => (by cases he), fun results c' he => ?_⟩
    cases he
    rfl
  | error fault' diagnostics =>
    rw [h] at htexts
    rw [bind_of_error (Running.diagnose_of_error h)]
    refine ⟨hreport, htexts, fun e c' he => ?_, fun results c' he => (by cases he)⟩
    cases he
    exact ⟨fault', rfl, Scribe.refusal?_of_error h⟩

/-! ## Files -/

variable {place : σ → π} (opts : RunOptions) (label directory name : String)
  (c : Console ω δ σ)

theorem enters_of_entered {previous : String} {s s' : σ}
    (h : Host.currentDirectory c.host = .ok previous s) (h' : Host.enter directory s = .ok () s') :
    Enters label c.host directory name
      (runInside opts label directory name (c.watched place)) := by
  have hknown : Host.currentDirectory (c.watched place).host = .ok previous ⟨s, []⟩ :=
    Tracker.currentDirectory_of_ok h
  obtain ⟨there, hthere⟩ : ∃ there : Tracker place,
      there = ⟨s', [.entering directory (place s)]⟩ :=
    ⟨_, rfl⟩
  have hentered : Host.enter directory (⟨s, []⟩ : Tracker place) = .ok () there := by
    rw [hthere]
    exact Tracker.enter_of_ok h'
  have htold : Told label (runOpened opts label name { c.watched place with host := there }) :=
    told_runOpened opts label name rfl rfl
  obtain ⟨after, hafter⟩ : ∃ after,
      finalState (runOpened opts label name { c.watched place with host := there }) = after :=
    ⟨_, rfl⟩
  have hvisits : after.host.visits = [.entering directory (place s), .opening name (place s')] := by
    rw [← hafter, Tracker.visits_runOpened, hthere]
    rfl
  cases h'' : Host.enter previous after.host.host with
  | ok _ s'' =>
    have hleft := Tracker.enter_of_ok h''
    rw [hvisits] at hleft
    rw [← hafter] at hleft
    rw [runInside_of_left opts label directory name hknown hentered hleft]
    refine .entered after.host.host h h' ?_ (htold.seen _)
    rw [visitsOf, finalState_seen, hafter]
    rfl
  | error fault s'' =>
    have hstuck := Tracker.enter_of_error h''
    rw [hvisits] at hstuck
    rw [← hafter] at hstuck
    rw [runInside_of_stuck opts label directory name hknown hentered hstuck, hafter]
    refine .entered after.host.host h h' rfl (told_error ?_ ?_ rfl)
    · rw [← hafter]
      exact htold.report
    · rw [← hafter]
      exact htold.diagnostics

theorem enters_runInside :
    Enters label c.host directory name
      (runInside opts label directory name (c.watched place)) := by
  cases h : Host.currentDirectory c.host with
  | error fault s =>
    have hlost : Host.currentDirectory (c.watched place).host = .error fault ⟨s, []⟩ :=
      Tracker.currentDirectory_of_error h
    rw [runInside_of_lost opts label directory name hlost]
    exact .lost h rfl ⟨rfl, rfl, _, rfl⟩
  | ok previous s =>
    have hknown : Host.currentDirectory (c.watched place).host = .ok previous ⟨s, []⟩ :=
      Tracker.currentDirectory_of_ok h
    cases h' : Host.enter directory s with
    | error fault s' =>
      have hrefused : Host.enter directory (⟨s, []⟩ : Tracker place) =
          .error fault ⟨s', [.entering directory (place s)]⟩ :=
        Tracker.enter_of_error h'
      rw [runInside_of_refused opts label directory name hknown hrefused]
      refine .refused h h' ?_ (barred_of_diagnose directory fault rfl rfl)
      rw [visitsOf, finalState_bind_pure, Running.host_diagnose]
    | ok _ s' => exact enters_of_entered opts label directory name c h h'

theorem exists_place?_iff (opts : RunOptions) (path : String) :
    (∃ d n, place? opts path = some (d, n)) ↔ opts.changeDirectory = true ∧
      ∃ dirs name, dirs ≠ [] ∧ Path.components path.toList = dirs ++ [.name name] := by
  rw [← Path.exists_splitName?_iff, place?]
  cases opts.changeDirectory <;> simp

/-- **A file is run from inside its directory.** The run is watched, which changes nothing of it. A
directory is entered exactly if there is one and that is asked for; then the components of the
directory and the name opened there are those of the path. Otherwise the path is opened as it is.
Everything that is told of a file is told under its path. -/
theorem runSpecFile_enters (place : σ → π) (opts : RunOptions) (path : String)
    (c : Console ω δ σ) :
    seen Console.unwatched (runSpecFile opts path (c.watched place)) = runSpecFile opts path c ∧
    ((∃ d n, place? opts path = some (d, n)) ↔ opts.changeDirectory = true ∧
      ∃ dirs name, dirs ≠ [] ∧ Path.components path.toList = dirs ++ [.name name]) ∧
    match place? opts path with
    | some (d, n) =>
      Path.components path.toList = Path.components d.toList ++ [.name n.toList] ∧
      '/' ∉ n.toList ∧ Path.components n.toList = [.name n.toList] ∧
      Enters path c.host d n (runSpecFile opts path (c.watched place))
    | none =>
      visitsOf (runSpecFile opts path (c.watched place)) = [.opening path (place c.host)] ∧
      Told path (runSpecFile opts path (c.watched place)) := by
  have hseen : seen Console.unwatched (runSpecFile opts path (c.watched place)) =
      runSpecFile opts path c :=
    Alike.runSpecFile Scribe.putsAlike_out Scribe.putsAlike_out Tracker.hostsAlike opts path
      (c.watched place)
  refine ⟨hseen, exists_place?_iff opts path, ?_⟩
  unfold runSpecFile
  cases h : place? opts path with
  | some inside =>
    obtain ⟨d, n⟩ := inside
    have hsplit : Path.splitName? path = some (d, n) := by
      rw [place?] at h
      split at h
      · exact h
      · cases h
    obtain ⟨hcomponents, hslash, hname⟩ := Path.components_splitName? hsplit
    exact ⟨hcomponents, hslash, hname, enters_runInside opts path d n c⟩
  | none =>
    exact ⟨Tracker.visits_runOpened opts path path (c.watched place),
      told_runOpened opts path path rfl rfl⟩

/-- The path of the spec in the cellar may be written with pieces that mean nothing. -/
example :
    visitsOf (runSpecFile { changeDirectory := true } "cellar//./a.t/."
      (Console.watched id ⟨Sink.unlimited, Sink.unlimited, Room.hall⟩)) =
      [.entering "cellar" .hall, .opening "a.t" .cellar, .entering "/hall" .cellar] := by
  decide +kernel

end

end CommandSpec
