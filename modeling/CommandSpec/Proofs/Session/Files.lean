import CommandSpec.Proofs.Session.Place
import Mathlib.Algebra.GroupWithZero.Nat

/-!
# Several spec files

Each file can be run by itself, at fresh sinks and at the host as the files before left it
(`RunsEach`).

**Theorem (`runSpecFiles_eq_fold`).** Running several files is running each of them by itself, in
order. If none stops the run, the counts are summed up, the texts follow each other, and a line with
the sums is added for two files or more. If one does, its error is the answer, the host is left as
that file left it, and no line with sums is written.

Sinks that took some text before take the rest as fresh ones do (`Sink.after`), and so do runs.
-/

namespace CommandSpec

/-- What came of a file: its counts and what it wrote. -/
structure FileRun where
  results : Nat × Nat
  report : String
  diagnostics : String
  deriving DecidableEq, Repr

section

variable {σ : Type} [Host σ] (opts : RunOptions)

/-- A file is run by itself, with what comes of it and the host afterwards. -/
def RunsFile (path : String) (host : σ) (r : FileRun) (host' : σ) : Prop :=
  runSpecFile opts path (.unlimited "" "" host) =
    .ok r.results (.unlimited r.report r.diagnostics host')

/-- A file is run by itself and stops with an error. -/
def StopsFile (path : String) (host : σ) (e : RunError) (c : Console Sink Sink σ) : Prop :=
  runSpecFile opts path (.unlimited "" "" host) = .error e c

/-- Files are run by themselves in order, each at the host that the file before left. -/
inductive RunsEach : List String → σ → List FileRun → σ → Prop
  | nil (host : σ) : RunsEach [] host [] host
  | cons {path : String} {paths : List String} {host host' host'' : σ} {r : FileRun}
    {rs : List FileRun} (hfile : RunsFile opts path host r host')
    (hrest : RunsEach paths host' rs host'') : RunsEach (path :: paths) host (r :: rs) host''

end

namespace FileRun

/-- The texts of some files, one after the other. -/
def texts (text : FileRun → String) : List FileRun → String
  | [] => ""
  | r :: rs => text r ++ texts text rs

/-- The counts of some files, added up. -/
def totals (rs : List FileRun) : Totals where
  failures := (rs.map fun r => r.results.1).sum
  total := (rs.map fun r => r.results.2).sum
  files := rs.length

theorem foldl_add (t : Totals) (rs : List FileRun) :
    rs.foldl (fun t r => t.add r.results) t =
      ⟨t.failures + (totals rs).failures, t.total + (totals rs).total,
        t.files + (totals rs).files⟩ := by
  induction rs generalizing t with
  | nil => rfl
  | cons r rs ih =>
    rw [List.foldl_cons, ih]
    simp only [Totals.add, totals, List.map_cons, List.sum_cons, List.length_cons, Totals.mk.injEq]
    omega

theorem totals_eq_foldl (rs : List FileRun) :
    totals rs = rs.foldl (fun t r => t.add r.results) {} := by
  rw [foldl_add, Nat.zero_add, Nat.zero_add, Nat.zero_add]

theorem allPassed_totals (rs : List FileRun) :
    (totals rs).allPassed = true ↔ ∀ r ∈ rs, r.results.1 = 0 := by
  rw [Totals.allPassed, decide_eq_true_iff]
  induction rs with
  | nil => simp [totals]
  | cons r rs ih =>
    rw [List.forall_mem_cons, ← ih]
    exact Nat.add_eq_zero_iff

end FileRun

/-! ## Sinks that never refuse -/

/-- A channel that is nothing but its text. -/
structure Transcript where
  text : String

instance : Channel Transcript where
  put text := modify fun t => ⟨t.text ++ text⟩

/-- A transcript as a sink without a limit. -/
def Transcript.sink (t : Transcript) : Sink :=
  ⟨t.text, none⟩

theorem putsAlike_sink : PutsAlike Transcript.sink := fun _ _ => rfl

section

variable {σ : Type} [Host σ] (opts : RunOptions)

/-- A file leaves sinks without a limit as such. -/
theorem exists_unlimited (path : String) (host : σ) :
    ∃ result : EStateM.Result RunError (Console Transcript Transcript σ) (Nat × Nat),
      runSpecFile opts path (.unlimited "" "" host) =
        seen (Console.map Transcript.sink Transcript.sink id) result :=
  ⟨_, (Alike.runSpecFile putsAlike_sink putsAlike_sink hostsAlike_id opts path
    ⟨⟨""⟩, ⟨""⟩, host⟩).symm⟩

/-- A file does the same at sinks that took some text before. -/
theorem runSpecFile_unlimited (path : String) (out err : String) (host : σ) :
    runSpecFile opts path (.unlimited out err host) =
      seen (Console.map (Sink.after out) (Sink.after err) id)
        (runSpecFile opts path (.unlimited "" "" host)) := by
  have hafter := Alike.runSpecFile (putsAlike_after out) (putsAlike_after err) hostsAlike_id opts
    path (Console.unlimited "" "" host)
  rw [hafter]
  simp [Console.map, Console.unlimited, Sink.after]

variable {opts}

theorem RunsFile.at_sinks {path : String} {host host' : σ} {r : FileRun}
    (h : RunsFile opts path host r host') (out err : String) :
    runSpecFile opts path (.unlimited out err host) =
      .ok r.results (.unlimited (out ++ r.report) (err ++ r.diagnostics) host') := by
  rw [runSpecFile_unlimited, show runSpecFile opts path _ = _ from h]
  rfl

/-- Either every file is run, or there is a first one that stops. -/
theorem runsEach_or_stops (paths : List String) (host : σ) :
    (∃ rs host', RunsEach opts paths host rs host') ∨
      ∃ before path later rs host' e c, paths = before ++ path :: later ∧
        RunsEach opts before host rs host' ∧
        StopsFile opts path host' e c := by
  induction paths generalizing host with
  | nil => exact .inl ⟨[], host, .nil host⟩
  | cons path paths ih =>
    obtain ⟨result, hresult⟩ := exists_unlimited opts path host
    cases result with
    | error e c => exact .inr ⟨[], path, paths, [], host, e, _, rfl, .nil host, hresult⟩
    | ok results c =>
      have hfile : RunsFile opts path host ⟨results, c.report.text, c.diagnostics.text⟩ c.host :=
        hresult
      refine (ih c.host).imp ?_ ?_
      · rintro ⟨rs, host', hrs⟩
        exact ⟨_, host', .cons hfile hrs⟩
      · rintro ⟨before, path', later, rs, host', e, c', rfl, hrs, hstop⟩
        exact ⟨path :: before, path', later, _, host', e, c', rfl, .cons hfile hrs, hstop⟩

/-! ## Files in order -/

theorem RunsEach.length_eq {paths : List String} {host host' : σ} {rs : List FileRun}
    (h : RunsEach opts paths host rs host') : rs.length = paths.length := by
  induction h with
  | nil _ => rfl
  | cons _ _ ih => rw [List.length_cons, List.length_cons, ih]

/-- Files that are run by themselves are run in front of others. -/
theorem RunsEach.runEach_append {paths : List String} {host host' : σ} {rs : List FileRun}
    (h : RunsEach opts paths host rs host') (later : List String) (t : Totals) (out err : String) :
    runEach opts t (paths ++ later) (.unlimited out err host) =
      runEach opts (rs.foldl (fun t r => t.add r.results) t) later
        (.unlimited (out ++ FileRun.texts FileRun.report rs)
          (err ++ FileRun.texts FileRun.diagnostics rs) host') := by
  induction h generalizing t out err with
  | nil host => simp [FileRun.texts]
  | cons hfile _ ih =>
    refine (bind_of_ok (hfile.at_sinks out err)).trans ((ih _ _ _).trans ?_)
    rw [String.append_assoc, String.append_assoc]
    rfl

theorem RunsEach.runEach_eq {paths : List String} {host host' : σ} {rs : List FileRun}
    (h : RunsEach opts paths host rs host') :
    runEach opts {} paths (.unlimited "" "" host) =
      .ok (FileRun.totals rs) (.unlimited (FileRun.texts FileRun.report rs)
        (FileRun.texts FileRun.diagnostics rs) host') := by
  have hrun := h.runEach_append [] {} "" ""
  rw [List.append_nil, ← FileRun.totals_eq_foldl, String.empty_append, String.empty_append] at hrun
  exact hrun

/-- The sums are told where there is more than one file. -/
theorem RunsEach.runSpecFiles_eq {paths : List String} {host host' : σ} {rs : List FileRun}
    (h : RunsEach opts paths host rs host') (hpaths : paths ≠ []) (stdin : Source σ) :
    runSpecFiles opts stdin paths (.unlimited "" "" host) =
      .ok (FileRun.totals rs) (.unlimited
        (FileRun.texts FileRun.report rs ++
          if 2 ≤ rs.length then (FileRun.totals rs).summary ++ "\n" else "")
        (FileRun.texts FileRun.diagnostics rs) host') := by
  unfold runSpecFiles
  rw [if_neg (by simpa using hpaths), bind_of_ok h.runEach_eq]
  by_cases hmany : 2 ≤ rs.length
  · rw [if_pos (show (FileRun.totals rs).files > 1 from hmany), if_pos hmany]
    rfl
  · rw [if_neg (show ¬ (FileRun.totals rs).files > 1 from hmany), if_neg hmany,
      String.append_empty]
    rfl

/-- The file that stops the run ends it. -/
theorem RunsEach.runEach_of_stops {before : List String} {path : String} {host host' : σ}
    {rs : List FileRun} {e : RunError} {c : Console Sink Sink σ}
    (h : RunsEach opts before host rs host') (hstop : StopsFile opts path host' e c)
    (later : List String) :
    runEach opts {} (before ++ path :: later) (.unlimited "" "" host) =
      .error e (c.map (.after (FileRun.texts FileRun.report rs))
        (.after (FileRun.texts FileRun.diagnostics rs)) id) := by
  rw [h.runEach_append, String.empty_append, String.empty_append]
  refine bind_of_error ?_
  rw [runSpecFile_unlimited, show runSpecFile opts path _ = _ from hstop]
  rfl

/-- A directory that cannot be entered costs one failed testcase and one line of diagnostics. -/
theorem runsFile_of_refused {path directory name previous : String} {host s host' : σ}
    {fault : Fault} (hplace : place? opts path = some (directory, name))
    (h : Host.currentDirectory host = .ok previous s)
    (h' : Host.enter directory s = .error fault host') :
    RunsFile opts path host
      ⟨(1, 1), "", ((RunError.cannotEnter directory fault).inFile path).render ++ "\n"⟩ host' := by
  unfold RunsFile runSpecFile
  rw [hplace]
  refine (runInside_of_refused (c := .unlimited "" "" host) opts path directory name h h').trans ?_
  exact bind_of_ok (a := ()) (Running.diagnose_of_ok rfl)

/-- **Running files is running each by itself, in order.** The parts are: what comes of it if no
file stops the run; what comes of it if one does; that it is one of these; and that a file whose
directory cannot be entered does not stop the run, and leaves the host as the attempt to enter it
did. -/
theorem runSpecFiles_eq_fold (opts : RunOptions) (stdin : Source σ) {paths : List String}
    (hpaths : paths ≠ []) (host : σ) :
    (∀ rs host', RunsEach opts paths host rs host' →
      let totals : Totals :=
        ⟨(rs.map fun r => r.results.1).sum, (rs.map fun r => r.results.2).sum, paths.length⟩
      runSpecFiles opts stdin paths (.unlimited "" "" host) =
          .ok totals (.unlimited
            (FileRun.texts FileRun.report rs ++
              if 2 ≤ paths.length then totals.summary ++ "\n" else "")
            (FileRun.texts FileRun.diagnostics rs) host') ∧
        (totals.allPassed = true ↔ ∀ r ∈ rs, r.results.1 = 0)) ∧
    (∀ before path later rs host' e c, paths = before ++ path :: later →
      RunsEach opts before host rs host' → StopsFile opts path host' e c →
      runSpecFiles opts stdin paths (.unlimited "" "" host) =
        .error e (c.map (.after (FileRun.texts FileRun.report rs))
          (.after (FileRun.texts FileRun.diagnostics rs)) id)) ∧
    ((∃ rs host', RunsEach opts paths host rs host') ∨
      ∃ before path later rs host' e c, paths = before ++ path :: later ∧
        RunsEach opts before host rs host' ∧ StopsFile opts path host' e c) ∧
    (∀ path directory name previous fault (s s' s'' : σ),
      place? opts path = some (directory, name) → Host.currentDirectory s = .ok previous s' →
      Host.enter directory s' = .error fault s'' →
      RunsFile opts path s
        ⟨(1, 1), "", ((RunError.cannotEnter directory fault).inFile path).render ++ "\n"⟩ s'') := by
  refine ⟨fun rs host' h => ?_, ?_, runsEach_or_stops paths host, ?_⟩
  · rw [← h.length_eq]
    refine ⟨?_, FileRun.allPassed_totals rs⟩
    exact h.runSpecFiles_eq hpaths stdin
  · rintro before path later rs host' e c rfl h hstop
    unfold runSpecFiles
    rw [if_neg (by simp), bind_of_error (h.runEach_of_stops hstop later)]
  · intro path directory name previous fault s s' s''
    exact runsFile_of_refused

end

/-- Two files pass in the cellar, and there is no attic. -/
theorem runSpecFiles_eq_fold_cellar :
    ["cellar/a.t", "attic/b.t", "cellar/a.t"] ≠ [] ∧
    runSpecFiles { changeDirectory := true } (.ofBytes []) ["cellar/a.t", "attic/b.t", "cellar/a.t"]
        (.unlimited "" "" Room.hall) =
      .ok ⟨1, 3, 3⟩ (.unlimited
        "cellar/a.t: OK (1 passed)\ncellar/a.t: OK (1 passed)\nTOTAL: FAIL (1/3 failed)\n"
        "attic/b.t: cannot change to attic: No such file or directory (os error 2)\n"
        Room.hall) := by
  have hpass : RunsFile { changeDirectory := true } "cellar/a.t" Room.hall
      ⟨(0, 1), "cellar/a.t: OK (1 passed)\n", ""⟩ Room.hall := by
    unfold RunsFile
    decide +kernel
  have hfold := runSpecFiles_eq_fold { changeDirectory := true } (.ofBytes [])
    (List.cons_ne_nil "cellar/a.t" ["attic/b.t", "cellar/a.t"]) Room.hall
  have hpenalty := hfold.2.2.2 "attic/b.t" "attic" "b.t" "/hall" OsError.noEntry.fault
    Room.hall Room.hall Room.hall (by decide +kernel) rfl rfl
  have hrun := (hfold.1 _ _ (.cons hpass (.cons hpenalty (.cons hpass (.nil _))))).1
  refine ⟨List.cons_ne_nil _ _, hrun.trans ?_⟩
  decide +kernel

end CommandSpec
