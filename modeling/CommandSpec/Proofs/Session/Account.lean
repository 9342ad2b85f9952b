import CommandSpec.Proofs.Report.Rows
import CommandSpec.Proofs.Spec.Segment
import CommandSpec.Session.Run

/-!
# The account of a spec

A testcase that was run has an *answer*: what its command did, or nothing if it is malformed and so
was not run (`Answered`). From the answers everything else follows without running anything: whether
a testcase passes (`Testcase.passes`), what the report says of it (`caseReport`), and what it says
of the whole spec (`account`).

The account is a function of the stretches of the spec, so that the account of a testcase follows
the echoes of its own stretch, and depends on no other.
-/

namespace CommandSpec

/-! ## Answers -/

/-- A command did what its testcase expects. -/
def Testcase.Holds (filter : Bool) (tc : Testcase) (r : Execution) : Prop :=
  r.exitStatus = tc.exitStatus ∧ shown filter r.stdout = tc.stdout ∧
    shown filter r.stderr = tc.stderr

instance (filter : Bool) (tc : Testcase) (r : Execution) : Decidable (tc.Holds filter r) :=
  inferInstanceAs (Decidable (_ ∧ _ ∧ _))

/-- A testcase passes if it was run and its command did what was expected. -/
def Testcase.passes (filter : Bool) (tc : Testcase) : Option Execution → Bool
  | none => false
  | some r => tc.Holds filter r

/-- The answer to a testcase, and where it leaves the host: a malformed one is not run. -/
def Testcase.Answered {σ : Type} [Executor σ] (tc : Testcase) (s : σ) :
    Option Execution → σ → Prop
  | none, s' => tc.malformed = true ∧ s' = s
  | some r, s' => tc.malformed = false ∧ Executor.execute tc.command tc.stdin s = .ok r s'

/-- The answers to testcases that are run one after the other. -/
inductive Answered {σ : Type} [Executor σ] :
    List Testcase → σ → List (Option Execution) → σ → Prop
  | nil (s : σ) : Answered [] s [] s
  | cons {tc : Testcase} {tcs : List Testcase} {s s₁ s' : σ} {a : Option Execution}
      {as : List (Option Execution)} :
      tc.Answered s a s₁ → Answered tcs s₁ as s' → Answered (tc :: tcs) s (a :: as) s'

/-- How many testcases fail. -/
def failureCount (filter : Bool) (tcs : List Testcase) (as : List (Option Execution)) : Nat :=
  (tcs.zip as).countP fun p => !p.1.passes filter p.2

/-! ## What is written -/

/-- What the report says of a testcase before its command is run. -/
def announcement (opts : SpecOptions) (label : String) (k : Nat) (tc : Testcase) : List String :=
  if opts.verbose then [Report.tagged label k ("!" ++ tc.command)] else []

/-- What the report says of the `k`-th testcase of a spec. -/
def caseReport (opts : SpecOptions) (label : String) (k : Nat) (tc : Testcase) :
    Option Execution → List String
  | none =>
    [Report.tagged label k
        ("FAIL: " ++ ("malformed testcase at line " ++ toString tc.line ++ ", not executed")),
      Report.tagged label k "FAILED"]
  | some r =>
    (if opts.verbose then [Report.tagged label k ("!" ++ tc.command)] else []) ++
    Report.channelRows label k opts.filterDebug "stdout" tc.command r.stdout tc.stdout ++
    Report.channelRows label k opts.filterDebug "stderr" tc.command r.stderr tc.stderr ++
    Report.statusRows label k tc.command r.exitStatus tc.exitStatus ++
    (if tc.Holds opts.filterDebug r then
      if opts.verbose then [Report.tagged label k "ok"] else []
    else [Report.tagged label k "FAILED"])

/-- The blank lines and comments as they are echoed. -/
def echoes (opts : SpecOptions) (ls : List SpecLine) : List String :=
  if opts.verbose then (ls.filter fun l => l.directive = .blank).map SpecLine.echo else []

@[simp] theorem echoes_nil (opts : SpecOptions) : echoes opts [] = [] := by
  simp [echoes]

/-- What the report says of some stretches, the first testcase of which is the `k`-th: of each its
echoes, and then its testcase. -/
def account (opts : SpecOptions) (label : String) :
    (k : Nat) → List (Stretch SpecLine) → List (Option Execution) → List String
  | _, [], _ => []
  | k, ⟨ls, none⟩ :: ss, as => echoes opts ls ++ account opts label k ss as
  | k, ⟨ls, some tc⟩ :: ss, as =>
    echoes opts ls ++ caseReport opts label k tc as.head?.join ++
      account opts label (k + 1) ss as.tail

/-- The line of diagnostics about an answer of the draft, if the answer is a rejection. -/
def Taken.diagnostic? (label : String) : Taken → Option String
  | rejected e => some (e.inFile label).render
  | _ => none

/-- The counts after one more testcase. -/
def Tally.closed (t : Tally) (passed : Bool) : Tally :=
  { t with
    index := t.index + 1
    failures := if passed then t.failures else t.failures + 1
    failed := false }

/-- The counts after some testcases. -/
def Tally.closedAll (t : Tally) (filter : Bool) (tcs : List Testcase)
    (as : List (Option Execution)) : Tally :=
  { t with
    index := t.index + tcs.length
    failures := t.failures + failureCount filter tcs as
    failed := false }

theorem Tally.closedAll_nil {t : Tally} (h : t.failed = false) (filter : Bool) :
    t.closedAll filter [] [] = t := by
  cases t
  simp_all [closedAll, failureCount]

theorem Tally.closedAll_cons (t : Tally) (filter : Bool) (tc : Testcase) (tcs : List Testcase)
    (a : Option Execution) (as : List (Option Execution)) :
    t.closedAll filter (tc :: tcs) (a :: as) =
      (t.closed (tc.passes filter a)).closedAll filter tcs as := by
  cases h : tc.passes filter a <;>
    simp [closedAll, closed, failureCount, h, Nat.add_assoc, Nat.add_comm 1]

theorem failureCount_append (filter : Bool) {tcs₁ : List Testcase} {as₁ : List (Option Execution)}
    (h : tcs₁.length = as₁.length) (tcs₂ : List Testcase) (as₂ : List (Option Execution)) :
    failureCount filter (tcs₁ ++ tcs₂) (as₁ ++ as₂) =
      failureCount filter tcs₁ as₁ + failureCount filter tcs₂ as₂ := by
  simp [failureCount, List.zip_append h]

theorem Tally.closedAll_append (t : Tally) (filter : Bool) {tcs₁ : List Testcase}
    {as₁ : List (Option Execution)} (h : tcs₁.length = as₁.length) (tcs₂ : List Testcase)
    (as₂ : List (Option Execution)) :
    t.closedAll filter (tcs₁ ++ tcs₂) (as₁ ++ as₂) =
      (t.closedAll filter tcs₁ as₁).closedAll filter tcs₂ as₂ := by
  simp [closedAll, failureCount_append filter h, Nat.add_assoc]

theorem Answered.length_eq {σ : Type} [Executor σ] {tcs : List Testcase} {s s' : σ}
    {as : List (Option Execution)} (h : Answered tcs s as s') : tcs.length = as.length := by
  induction h with
  | nil => rfl
  | cons _ _ ih => rw [List.length_cons, List.length_cons, ih]

theorem answered_append {σ : Type} [Executor σ] {tcs₁ tcs₂ : List Testcase} {s s' : σ}
    {as : List (Option Execution)} :
    Answered (tcs₁ ++ tcs₂) s as s' ↔
      ∃ as₁ s₁ as₂, as = as₁ ++ as₂ ∧ Answered tcs₁ s as₁ s₁ ∧ Answered tcs₂ s₁ as₂ s' := by
  induction tcs₁ generalizing s as with
  | nil =>
    refine ⟨fun h => ⟨[], s, as, rfl, .nil s, h⟩, ?_⟩
    rintro ⟨_, _, as₂, rfl, ⟨⟩, h⟩
    exact h
  | cons tc tcs₁ ih =>
    constructor
    · rintro (_ | ⟨htc, hrest⟩)
      obtain ⟨as₁, s₁, as₂, rfl, h₁, h₂⟩ := ih.1 hrest
      exact ⟨_ :: as₁, s₁, as₂, rfl, .cons htc h₁, h₂⟩
    · rintro ⟨_, s₁, as₂, rfl, _ | ⟨htc, h₁⟩, h₂⟩
      exact .cons htc (ih.2 ⟨_, s₁, as₂, rfl, h₁, h₂⟩)

theorem account_cons_nil (opts : SpecOptions) (label : String) (k : Nat) (tc? : Option Testcase)
    (ss : List (Stretch SpecLine)) {as₁ : List (Option Execution)}
    (h : tc?.toList.length = as₁.length) (as₂ : List (Option Execution)) :
    account opts label k (⟨[], tc?⟩ :: ss) (as₁ ++ as₂) =
      account opts label k [⟨[], tc?⟩] as₁ ++
        account opts label (k + tc?.toList.length) ss as₂ := by
  cases tc? with
  | none =>
    obtain rfl := List.length_eq_zero_iff.1 h.symm
    simp [account]
  | some tc =>
    obtain ⟨a, rfl⟩ := List.length_eq_one_iff.1 h.symm
    simp [account]

/-- A line that stands first in a stretch is echoed first. -/
theorem account_modifyHead (opts : SpecOptions) (label : String) (k : Nat) (l : SpecLine)
    {ss : List (Stretch SpecLine)} (hss : ss ≠ []) (as : List (Option Execution)) :
    account opts label k (ss.modifyHead fun s => { s with lines := l :: s.lines }) as =
      echoes opts [l] ++ account opts label k ss as := by
  obtain ⟨⟨ls, tc?⟩, ss, rfl⟩ := List.exists_cons_of_ne_nil hss
  have hechoes : echoes opts (l :: ls) = echoes opts [l] ++ echoes opts ls := by
    unfold echoes
    split
    · rw [← List.map_append, ← List.filter_append, List.singleton_append]
    · rfl
  cases tc? <;> simp [account, hechoes]

end CommandSpec
