import CommandSpec.Proofs.Session.Alike
import Mathlib.Data.List.Forall2

/-!
# The place where files are looked up

A host looks up paths at a place of its own, its current directory. It is *steady* if nothing but
entering a directory changes that place, if a directory that cannot be entered leaves it as it is,
and if entering the path that was told for the current directory leads back to it (`Steady`).

A *tracker* is a host that hands everything on to another one and writes down which directories were
entered and which specs were opened, and from which place.

**Theorem (`runSpecFiles_returns`).** At a steady host, a file leaves the place as it was, whatever
came of it, unless its answer is that the directory before could not be entered again. Without the
option to change directories nothing is entered at all. However many files are run, each of them is
entered or opened from the place where the run started.
-/

namespace CommandSpec

section

variable {σ π : Type}

/-- A host whose place is changed only by entering a directory, and that can be led back to it. -/
structure Steady [Host σ] (place : σ → π) : Prop where
  /-- Commands do not change the place of what runs them. -/
  execute : ∀ command stdin (s : σ), place (finalState (Executor.execute command stdin s)) = place s
  openSpec : ∀ path (s : σ), place (finalState (Host.openSpec path s)) = place s
  refill : ∀ path (s : σ) source s', Host.openSpec path s = .ok source s' →
    ∀ later, place (finalState (source.refill later)) = place later
  currentDirectory : ∀ s : σ, place (finalState (Host.currentDirectory s)) = place s
  /-- A directory that cannot be entered leaves the place as it is. -/
  refused : ∀ directory (s : σ) fault s', Host.enter directory s = .error fault s' →
    place s' = place s
  /-- Whoever enters what was told for the current directory is back there. -/
  back : ∀ (s : σ) directory s', Host.currentDirectory s = .ok directory s' →
    ∀ later there, Host.enter directory later = .ok () there → place there = place s

/-- What is looked up at a place. -/
inductive Visit (π : Type) where
  /-- A directory was to be entered. -/
  | entering (directory : String) (place : π)
  /-- A spec was to be opened. -/
  | opening (path : String) (place : π)
  deriving DecidableEq, Repr

/-- A host and what was looked up at it so far, with the place where that was done. -/
structure Tracker (place : σ → π) where
  host : σ
  visits : List (Visit π) := []

namespace Tracker

variable {ε α : Type} {place : σ → π}

/-- Do something at the host and write down what is looked up. -/
def follow (note : π → List (Visit π)) (action : EStateM ε σ α) : EStateM ε (Tracker place) α :=
  fun t =>
  match action t.host with
  | .ok a host => .ok a ⟨host, t.visits ++ note (place t.host)⟩
  | .error e host => .error e ⟨host, t.visits ++ note (place t.host)⟩

instance [Executor σ] : Executor (Tracker place) where
  execute command stdin := follow (fun _ => []) (Executor.execute command stdin)

end Tracker

/-- The source, read at a tracker. -/
def Source.tracked (place : σ → π) (source : Source σ) : Source (Tracker place) where
  bytes := source.bytes
  refills := source.refills
  refill := Tracker.follow (fun _ => []) source.refill

instance [Host σ] (place : σ → π) : Host (Tracker place) where
  currentDirectory := Tracker.follow (fun _ => []) Host.currentDirectory
  enter directory := Tracker.follow (fun p => [.entering directory p]) (Host.enter directory)
  openSpec path := do
    let source ← Tracker.follow (fun p => [.opening path p]) (Host.openSpec path)
    return source.tracked place

namespace Tracker

variable {ε α : Type} {place : σ → π}

theorem mirrors_follow (note : π → List (Visit π)) (action : EStateM ε σ α) :
    Mirrors (host : Tracker place → σ) (follow note action) action := by
  intro t
  unfold follow
  cases action t.host <;> rfl

theorem alike_tracked (source : Source σ) :
    (source.tracked place).Alike host source :=
  ⟨rfl, rfl, mirrors_follow (fun _ => []) source.refill⟩

theorem hostsAlike [Host σ] : HostsAlike (host : Tracker place → σ) where
  execute _ _ := mirrors_follow _ _
  currentDirectory := mirrors_follow _ _
  enter _ := mirrors_follow _ _
  openSpec path t := by
    cases h : Host.openSpec path t.host <;>
      simp [Host.openSpec, follow, bind, EStateM.bind, pure, EStateM.pure, h,
        Source.OpenedAlike, alike_tracked]

/-- The host is at a place and was visited so far as told. -/
structure At (p : π) (visits : List (Visit π)) (t : Tracker place) : Prop where
  here : place t.host = p
  visited : t.visits = visits

theorem finalState_follow (note : π → List (Visit π)) (action : EStateM ε σ α)
    (t : Tracker place) :
    finalState (follow note action t) =
      ⟨finalState (action t.host), t.visits ++ note (place t.host)⟩ := by
  unfold follow
  cases action t.host <;> rfl

/-- What keeps the place and looks up nothing leaves the host there. -/
theorem At.follow {p : π} {visits : List (Visit π)} {t : Tracker place} (ht : t.At p visits)
    {action : EStateM ε σ α} (haction : place (finalState (action t.host)) = place t.host) :
    (finalState (follow (fun _ => []) action t)).At p visits := by
  rw [finalState_follow, List.append_nil]
  exact ⟨haction.trans ht.here, ht.visited⟩

variable [Host σ] {t t' : Tracker place} {path directory : String} {s : σ} {fault : Fault}

theorem openSpec_of_ok {source : Source σ} (h : Host.openSpec path t.host = .ok source s) :
    Host.openSpec path t =
      .ok (source.tracked place) ⟨s, t.visits ++ [.opening path (place t.host)]⟩ := by
  simp [Host.openSpec, follow, bind, EStateM.bind, pure, EStateM.pure, h]

theorem openSpec_of_error (h : Host.openSpec path t.host = .error fault s) :
    Host.openSpec path t = .error fault ⟨s, t.visits ++ [.opening path (place t.host)]⟩ := by
  simp [Host.openSpec, follow, bind, EStateM.bind, h]

theorem visits_enter (directory : String) (t : Tracker place) :
    (finalState (Host.enter directory t)).visits =
      t.visits ++ [.entering directory (place t.host)] :=
  congrArg visits (finalState_follow _ _ t)

end Tracker

/-- What may be looked up for a file that is run from a place. -/
inductive Itinerary (opts : RunOptions) (home : π) (path : String) : List (Visit π) → Prop
  /-- The file is run where it is. -/
  | here (h : place? opts path = none) : Itinerary opts home path [.opening path home]
  /-- The current directory is not known. -/
  | lost {directory name : String} (h : place? opts path = some (directory, name)) :
    Itinerary opts home path []
  /-- The directory of the file cannot be entered. -/
  | refused {directory name : String} (h : place? opts path = some (directory, name)) :
    Itinerary opts home path [.entering directory home]
  /-- The file is run from inside its directory, which is left from the same place. -/
  | inside {directory name : String} (h : place? opts path = some (directory, name)) (there : π)
    (previous : String) :
    Itinerary opts home path
      [.entering directory home, .opening name there, .entering previous there]

end

/-- The answer to a file is that the directory before could not be entered again. -/
def Stuck {ω δ σ α : Type} (label : String)
    (result : EStateM.Result RunError (Console ω δ σ) α) : Prop :=
  ∃ previous fault c, result = .error ((RunError.cannotReturn previous fault).inFile label) c

/-- What is left of a file that was run from a place: its itinerary was added to the visits, and the
host is back at the place unless the way was blocked. -/
def Returns {ω δ σ π α : Type} {place : σ → π} (opts : RunOptions) (p : π) (visits : List (Visit π))
    (path : String) (result : EStateM.Result RunError (Console ω δ (Tracker place)) α) : Prop :=
  ∃ vs, Itinerary opts p path vs ∧ (finalState result).host.visits = visits ++ vs ∧
    (place (finalState result).host.host = p ∨ Stuck path result)

/-! ## Files at a tracker -/

section

variable {ω δ σ π : Type} [Channel ω] [Channel δ] [Host σ] {place : σ → π} {p : π}
  {visits : List (Visit π)} {c : Console ω δ (Tracker place)}

open Tracker

variable (hplace : Steady place) (opts : RunOptions)
include hplace

theorem runOpened_at (label path : String) (hc : c.host.At p visits) :
    (finalState (runOpened opts label path c)).host.At p (visits ++ [.opening path p]) := by
  have hopen := hplace.openSpec path c.host.host
  cases h : Host.openSpec path c.host.host with
  | ok source s =>
    rw [runOpened_of_ok opts label (openSpec_of_ok h)]
    refine runSpec_keeps (fun command stdin t ht => ?_) (fun t ht => ?_) _ label ?_
    · exact ht.follow (hplace.execute command stdin t.host)
    · exact ht.follow (hplace.refill _ _ _ _ h t.host)
    · rw [h] at hopen
      exact ⟨hopen.trans hc.here, by rw [hc.visited, hc.here]⟩
  | error fault s =>
    rw [runOpened_of_error opts label (openSpec_of_error h)]
    rw [h] at hopen
    exact ⟨hopen.trans hc.here, by simp [finalState, hc.visited, hc.here]⟩

/-- Whatever comes of a file inside its directory, the way out leads back to where the directory was
entered. -/
theorem runInside_at_of_entered {path directory name previous : String} {t t' : Tracker place}
    (hd : place? opts path = some (directory, name)) (hc : place c.host.host = p)
    (h : Host.currentDirectory c.host = .ok previous t)
    (h' : Host.enter directory t = .ok () t')
    (hvisits : t'.visits = visits ++ [.entering directory p]) :
    Returns opts p visits path (runInside opts path directory name c) := by
  have hinside : (finalState (runOpened opts path name { c with host := t' })).host.At
      (place t'.host) (visits ++ [.entering directory p] ++ [.opening name (place t'.host)]) :=
    runOpened_at hplace opts path name ⟨rfl, hvisits⟩
  have hout := visits_enter previous
    (finalState (runOpened opts path name { c with host := t' })).host
  rw [hinside.visited, hinside.here, List.append_assoc, List.append_assoc] at hout
  have htold := Tracker.hostsAlike.currentDirectory c.host
  have hback := Tracker.hostsAlike.enter previous
    (finalState (runOpened opts path name { c with host := t' })).host
  rw [h] at htold
  refine ⟨_, .inside hd (place t'.host) previous, ?_⟩
  cases h'' : Host.enter previous
      (finalState (runOpened opts path name { c with host := t' })).host with
  | error fault t'' =>
    rw [h''] at hout
    rw [runInside_of_stuck opts path directory name h h' h'']
    exact ⟨hout, .inr ⟨previous, fault, _, rfl⟩⟩
  | ok _ t'' =>
    rw [h''] at hout hback
    rw [runInside_of_left opts path directory name h h' h'', finalState_seen]
    exact ⟨hout, .inl ((hplace.back _ _ _ htold.symm _ _ hback.symm).trans hc)⟩

theorem runInside_at {path directory name : String}
    (hd : place? opts path = some (directory, name)) (hc : c.host.At p visits) :
    Returns opts p visits path (runInside opts path directory name c) := by
  have hknown : (finalState (Host.currentDirectory c.host)).At p visits :=
    hc.follow (hplace.currentDirectory c.host.host)
  cases h : Host.currentDirectory c.host with
  | error fault t =>
    rw [h] at hknown
    rw [runInside_of_lost opts path directory name h]
    exact ⟨[], .lost hd, by rw [List.append_nil]; exact hknown.visited, .inl hknown.here⟩
  | ok previous t =>
    rw [h] at hknown
    have hhere : t.At p visits := hknown
    have hvisits := visits_enter directory t
    have hdo := Tracker.hostsAlike.enter directory t
    rw [hhere.visited, hhere.here] at hvisits
    cases h' : Host.enter directory t with
    | error fault t' =>
      rw [h'] at hvisits hdo
      have hhost : (finalState (runInside opts path directory name c)).host = t' := by
        rw [runInside_of_refused opts path directory name h h', finalState_bind_pure]
        exact Running.host_diagnose _ _
      refine ⟨[.entering directory p], .refused hd, ?_, .inl ?_⟩
      · rw [hhost]
        exact hvisits
      · rw [hhost]
        exact (hplace.refused directory t.host fault t'.host hdo.symm).trans hhere.here
    | ok _ t' =>
      rw [h'] at hvisits
      exact runInside_at_of_entered hplace opts hd hc.here h h' hvisits

theorem runSpecFile_at (path : String) (hc : c.host.At p visits) :
    Returns opts p visits path (runSpecFile opts path c) := by
  unfold runSpecFile
  cases hd : place? opts path with
  | some inside => exact runInside_at hplace opts hd hc
  | none =>
    have hopened := runOpened_at hplace opts path path hc
    exact ⟨_, .here hd, hopened.visited, .inl hopened.here⟩

/-- Each file is looked up from the same place, since the file before left the host there or was the
last one. -/
theorem runEach_at (totals : Totals) (paths : List String) (hc : c.host.At p visits) :
    ∃ vss : List (List (Visit π)), vss.length ≤ paths.length ∧
      List.Forall₂ (Itinerary opts p) (paths.take vss.length) vss ∧
      (finalState (runEach opts totals paths c)).host.visits = visits ++ vss.flatten := by
  induction paths generalizing totals c visits with
  | nil => exact ⟨[], Nat.le_refl 0, .nil, hc.visited.trans (List.append_nil visits).symm⟩
  | cons path paths ih =>
    obtain ⟨vs, hvs, hvisits, hplace'⟩ := runSpecFile_at hplace opts path hc
    cases h : runSpecFile opts path c with
    | ok results c' =>
      rw [h] at hvisits hplace'
      have hhere : place c'.host.host = p :=
        hplace'.resolve_right fun ⟨_, _, _, hstuck⟩ => by cases hstuck
      obtain ⟨vss, hlength, hvss, hrest⟩ := ih (totals.add results) ⟨hhere, hvisits⟩
      have hrun : runEach opts totals (path :: paths) c =
          runEach opts (totals.add results) paths c' :=
        bind_of_ok h
      refine ⟨vs :: vss, Nat.succ_le_succ hlength, .cons hvs hvss, ?_⟩
      rw [hrun, hrest, List.flatten_cons, List.append_assoc]
    | error e c' =>
      rw [h] at hvisits
      have hrun : runEach opts totals (path :: paths) c = .error e c' := bind_of_error h
      refine ⟨[vs], Nat.succ_le_succ (Nat.zero_le _), .cons hvs .nil, ?_⟩
      rw [hrun, List.flatten_singleton]
      exact hvisits

omit hplace in
/-- The line that sums up several files is written without the host. -/
theorem host_runSpecFiles (stdin : Source (Tracker place)) {paths : List String} (h : paths ≠ []) :
    (finalState (runSpecFiles opts stdin paths c)).host =
      (finalState (runEach opts {} paths c)).host := by
  unfold runSpecFiles
  rw [if_neg (by simpa using h)]
  cases heach : runEach opts {} paths c with
  | ok totals c' =>
    rw [bind_of_ok heach]
    split
    · rw [finalState_bind_pure]
      exact Running.host_report _ _
    · rfl
  | error e c' => rw [bind_of_error heach]

theorem runSpecFiles_at (stdin : Source σ) (paths : List String) (hc : c.host.At p []) :
    ∃ vss : List (List (Visit π)), vss.length ≤ paths.length ∧
      List.Forall₂ (Itinerary opts p) (paths.take vss.length) vss ∧
      (finalState (runSpecFiles opts (stdin.tracked place) paths c)).host.visits = vss.flatten := by
  cases paths with
  | nil =>
    refine ⟨[], Nat.le_refl 0, .nil, ?_⟩
    unfold runSpecFiles
    rw [if_pos List.isEmpty_nil, finalState_bind_pure]
    have hkeep (t : Tracker place) {ε α : Type} (action : EStateM ε σ α) (ht : t.visits = []) :
        (finalState (Tracker.follow (fun _ => []) action t)).visits = [] := by
      rw [finalState_follow, ht]
      rfl
    exact runSpec_keeps (P := fun t : Tracker place => t.visits = [])
      (fun _ _ t ht => hkeep t _ ht) (fun t ht => hkeep t _ ht) _ _ hc.visited
  | cons path paths =>
    obtain ⟨vss, hlength, hvss, hvisits⟩ := runEach_at hplace opts {} (path :: paths) hc
    refine ⟨vss, hlength, hvss, ?_⟩
    rw [host_runSpecFiles opts _ (List.cons_ne_nil _ _), hvisits]
    rfl

end

/-! ## Files at a steady host -/

section

variable {ω δ σ π : Type}

/-- The console with its host tracked from now on. -/
def Console.tracked (place : σ → π) (c : Console ω δ σ) : Console ω δ (Tracker place) :=
  ⟨c.report, c.diagnostics, { host := c.host }⟩

/-- A console at a tracker, seen as one at the host. -/
def Console.untracked {place : σ → π} (c : Console ω δ (Tracker place)) : Console ω δ σ :=
  ⟨c.report, c.diagnostics, c.host.host⟩

/-- What was looked up until a result was there. -/
def visitsOf {α : Type} {place : σ → π}
    (result : EStateM.Result RunError (Console ω δ (Tracker place)) α) : List (Visit π) :=
  (finalState result).host.visits

/-- **Every file leaves the host where it was.** The first part is about one file: at a tracker it
is run as at the host; if its answer is not that the directory before could not be entered again,
the host is where it was; and without the option to change directories the file is opened from there
and nothing is entered. The second part is about several files: each of them that is run is entered
or opened from where the run started. -/
theorem runSpecFiles_returns [Channel ω] [Channel δ] [Host σ] {place : σ → π}
    (hplace : Steady place) (opts : RunOptions) (c : Console ω δ σ) :
    (∀ path : String,
      seen Console.untracked (runSpecFile opts path (c.tracked place)) = runSpecFile opts path c ∧
      (¬ Stuck path (runSpecFile opts path c) →
        place (finalState (runSpecFile opts path c)).host = place c.host) ∧
      (opts.changeDirectory = false →
        visitsOf (runSpecFile opts path (c.tracked place)) = [.opening path (place c.host)])) ∧
    ∀ (stdin : Source σ) (paths : List String),
      seen Console.untracked (runSpecFiles opts (stdin.tracked place) paths (c.tracked place)) =
        runSpecFiles opts stdin paths c ∧
      ∃ vss : List (List (Visit π)), vss.length ≤ paths.length ∧
        List.Forall₂ (Itinerary opts (place c.host)) (paths.take vss.length) vss ∧
        visitsOf (runSpecFiles opts (stdin.tracked place) paths (c.tracked place)) =
          vss.flatten := by
  have hc : (c.tracked place).host.At (place c.host) [] := ⟨rfl, rfl⟩
  refine ⟨fun path => ?_, fun stdin paths => ⟨?_, runSpecFiles_at hplace opts stdin paths hc⟩⟩
  · have hseen : seen Console.untracked (runSpecFile opts path (c.tracked place)) =
        runSpecFile opts path c :=
      Alike.runSpecFile putsAlike_id putsAlike_id Tracker.hostsAlike opts path (c.tracked place)
    obtain ⟨vs, hvs, hvisits, hback⟩ := runSpecFile_at hplace opts path hc
    refine ⟨hseen, fun hstuck => ?_, fun hoption => ?_⟩
    · rw [← hseen, finalState_seen]
      refine hback.resolve_right fun ⟨previous, fault, c', hc'⟩ => hstuck ?_
      rw [← hseen, hc']
      exact ⟨previous, fault, _, rfl⟩
    · have hnone : place? opts path = none := by
        rw [place?, hoption]
        rfl
      cases hvs with
      | here _ => exact hvisits
      | lost h | refused h | inside h _ _ => exact absurd (h.symm.trans hnone) (by simp)
  · exact Alike.runSpecFiles putsAlike_id putsAlike_id Tracker.hostsAlike opts
      (Tracker.alike_tracked stdin) paths (c.tracked place)

end

/-! ## A host with two directories -/

/-- A place in a small building: the cellar is a directory in the hall and holds one spec. -/
inductive Room where
  | hall
  | cellar
  deriving DecidableEq, Repr

namespace Room

/-- The absolute path of a room. -/
def path : Room → String
  | hall => "/hall"
  | cellar => "/hall/cellar"

instance : Host Room where
  execute command stdin := pure ⟨0, command :: stdin, []⟩
  currentDirectory := do return (← get).path
  enter directory room :=
    if directory = path hall then .ok () hall
    else if directory = path cellar ∨ directory = "cellar" ∧ room = hall then .ok () cellar
    else .error OsError.noEntry.fault room
  openSpec path room :=
    if path = "a.t" ∧ room = cellar then .ok (.ofString "!a\n>a\n") room
    else .error OsError.noEntry.fault room

theorem steady : Steady (id : Room → Room) where
  execute _ _ _ := rfl
  openSpec path room := by
    unfold Host.openSpec instHost
    dsimp only
    split <;> rfl
  refill path room source room' h later := by
    unfold Host.openSpec instHost at h
    dsimp only at h
    split at h
    · cases h
      rfl
    · cases h
  currentDirectory _ := rfl
  refused directory room fault room' h := by
    unfold Host.enter instHost at h
    dsimp only at h
    split at h
    · cases h
    · split at h
      · cases h
      · cases h
        rfl
  back room directory room' h later there h' := by
    cases h
    cases room
    · cases h'
      rfl
    · cases h'
      rfl

/-- Inside the cellar the report is refused, and the run ends in the hall all the same. -/
theorem returns_from_cellar :
    Steady (id : Room → Room) ∧
    (finalState (runSpecFile { changeDirectory := true } "cellar/a.t"
      ⟨Sink.limited 0, Sink.unlimited, hall⟩)).host = hall := by
  refine ⟨steady, ?_⟩
  refine ((runSpecFiles_returns steady { changeDirectory := true }
    ⟨Sink.limited 0, Sink.unlimited, hall⟩).1 "cellar/a.t").2.1 ?_
  have hrefused : seen (fun _ => ()) (runSpecFile { changeDirectory := true } "cellar/a.t"
      ⟨Sink.limited 0, Sink.unlimited, hall⟩) =
      .error { kind := .io, message := "writer closed" } () := by
    decide +kernel
  rintro ⟨previous, fault, c, hc⟩
  rw [hc] at hrefused
  cases hrefused

/-- The cellar is entered and left, and there is no attic; then a spec is looked for in the hall. -/
example :
    visitsOf (runSpecFiles { changeDirectory := true } (Source.tracked id (.ofBytes []))
      ["cellar/a.t", "attic/b.t", "a.t"]
      (Console.tracked id ⟨Sink.unlimited, Sink.unlimited, hall⟩)) =
      [.entering "cellar" hall, .opening "a.t" cellar, .entering "/hall" cellar,
        .entering "attic" hall, .opening "a.t" hall] := by
  decide +kernel

end Room

end CommandSpec
