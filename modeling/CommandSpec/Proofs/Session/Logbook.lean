import CommandSpec.Proofs.Session.Batch

/-!
# Logbooks

A logbook is a host that hands commands on to another one and notes each of them, also one that
cannot be started. It answers as the host behind it does (`executesAlike_logbook`), and what a run
notes in an empty logbook are its calls (`callsOfSpec`).

**Theorem (`callsOfSpec_of_answered`).** The calls of a run whose testcases are all answered are
those of the testcases that are not malformed.
-/

namespace CommandSpec

/-- A host and the commands that it was to run, in order, with what they were fed. -/
structure Logbook (σ : Type) where
  host : σ
  calls : List (String × List String) := []

instance {σ : Type} [Executor σ] : Executor (Logbook σ) where
  execute command stdin book :=
    seen (fun host => ⟨host, book.calls ++ [(command, stdin)]⟩)
      (Executor.execute command stdin book.host)

variable {σ : Type} [Executor σ]

/-- The commands that a run of a spec has the host run. -/
def callsOfSpec (opts : SpecOptions) (label : String) (bytes : List UInt8) (host : σ) :
    List (String × List String) :=
  (finalState (runSpec opts label (.ofBytes bytes)
    (.unlimited "" "" (⟨host, []⟩ : Logbook σ)))).host.calls

theorem callsOfSpec_congr {bytes bytes' : List UInt8} (h : linesOfSpec bytes = linesOfSpec bytes')
    (opts : SpecOptions) (label : String) (host : σ) :
    callsOfSpec opts label bytes host = callsOfSpec opts label bytes' host := by
  rw [callsOfSpec, callsOfSpec, runSpec_congr h]

/-- The commands of the testcases that are run. -/
def callsOfTestcases (tcs : List Testcase) : List (String × List String) :=
  (tcs.filter fun tc => !tc.malformed).map Testcase.call

theorem callsOfTestcases_append (tcs₁ tcs₂ : List Testcase) :
    callsOfTestcases (tcs₁ ++ tcs₂) = callsOfTestcases tcs₁ ++ callsOfTestcases tcs₂ := by
  simp [callsOfTestcases]

theorem executesAlike_logbook : ExecutesAlike (Logbook.host : Logbook σ → σ) := by
  intro command stdin book
  show seen Logbook.host (seen _ (Executor.execute command stdin book.host)) =
    Executor.execute command stdin book.host
  cases Executor.execute command stdin book.host <;> rfl

/-- What was noted stays noted. -/
theorem begins_calls_execute {calls : List (String × List String)} (command : String)
    (stdin : List String) (book : Logbook σ) (h : calls <+: book.calls) :
    calls <+: (finalState (Executor.execute command stdin book)).calls := by
  have hnoted : finalState (Executor.execute command stdin book) =
      ⟨finalState (Executor.execute command stdin book.host), book.calls ++ [(command, stdin)]⟩ :=
    finalState_seen _ _
  rw [hnoted]
  exact h.trans (List.prefix_append _ _)

theorem execute_logbook_of_error {command : String} {stdin : List String} {s s' : σ} {e : RunError}
    (h : Executor.execute command stdin s = .error e s') (calls : List (String × List String)) :
    Executor.execute command stdin (⟨s, calls⟩ : Logbook σ) =
      .error e ⟨s', calls ++ [(command, stdin)]⟩ := by
  show seen _ (Executor.execute command stdin s) = _
  rw [h]
  rfl

theorem Testcase.Answered.logbook {tc : Testcase} {s s' : σ} {a : Option Execution}
    (h : tc.Answered s a s') (calls : List (String × List String)) :
    tc.Answered (⟨s, calls⟩ : Logbook σ) a ⟨s', calls ++ callsOfTestcases [tc]⟩ := by
  cases a with
  | none =>
    obtain ⟨hm, rfl⟩ := h
    exact ⟨hm, by simp [callsOfTestcases, hm]⟩
  | some r =>
    obtain ⟨hm, hr⟩ := h
    refine ⟨hm, ?_⟩
    show seen _ (Executor.execute tc.command tc.stdin s) = _
    simp [hr, seen, callsOfTestcases, hm, Testcase.call]

/-- A logbook answers as the host behind it does, and notes the commands that are run. -/
theorem Answered.logbook {tcs : List Testcase} {s s' : σ} {as : List (Option Execution)}
    (h : Answered tcs s as s') (calls : List (String × List String)) :
    Answered tcs (⟨s, calls⟩ : Logbook σ) as ⟨s', calls ++ callsOfTestcases tcs⟩ := by
  induction h generalizing calls with
  | nil => simpa [callsOfTestcases] using Answered.nil _
  | @cons tc tcs _ _ _ _ _ htc _ ih =>
    rw [← List.singleton_append, callsOfTestcases_append, ← List.append_assoc]
    exact .cons (htc.logbook calls) (ih _)

/-- **The calls of a run** are those of its testcases, if no command fails to start. -/
theorem callsOfSpec_of_answered (opts : SpecOptions) (label : String) {bytes : List UInt8}
    {s s' : σ} {as : List (Option Execution)}
    (h : Answered (testcases SpecLine.directive (linesOfSpec bytes)) s as s') :
    callsOfSpec opts label bytes s =
      callsOfTestcases (testcases SpecLine.directive (linesOfSpec bytes)) := by
  rw [callsOfSpec, Console.unlimited, runSpec_of_answered opts label bytes "" "" (h.logbook [])]
  exact List.nil_append _

end CommandSpec
