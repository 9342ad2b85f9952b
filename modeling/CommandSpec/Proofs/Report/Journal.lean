import CommandSpec.Proofs.Report.Rows
import Mathlib.Data.List.DropRight

/-!
# The journal of a report

A channel may refuse a line and take the next one, and a report can go on after a refusal. Its
*journal* notes which operations were asked of it and which of them went through. An operation
*marks* the current testcase if it tells that something differs, whether or not it could write so;
an entry of the journal *closes* the testcase if it is an `advance` that went through.

**Theorem (`counts_after`).** The counts of a report are those of its journal: the testcases are the
closing entries, the current one has failed exactly if it was marked since the last of them, and the
failures are the closing entries at which it had failed. An `advance` that does not go through
counts nothing, so that it can be tried again.

Each operation moves the counts as its entry says (`tally_perform`), on both of its paths. The rest
is an induction on the operations, the latest taken off first.
-/

namespace CommandSpec

namespace Report

/-! ## Operations and entries -/

/-- What can be asked of a report. -/
inductive Operation where
  | line (text : String)
  | message (text : String)
  | fail (reason : String)
  | check (channel command : String) (actual expected : List String) (filter : Bool)
  | checkExitStatus (command : String) (actual expected : Int)
  | advance
  | summary
  deriving DecidableEq, Repr

/-- The operation tells that the current testcase fails. -/
def Operation.Marks : Operation → Prop
  | fail _ => True
  | check _ _ actual expected filter => shown filter actual ≠ expected
  | checkExitStatus _ actual expected => actual ≠ expected
  | line _ | message _ | advance | summary => False

instance : DecidablePred Operation.Marks
  | .fail _ => .isTrue trivial
  | .check _ _ actual expected filter =>
    inferInstanceAs (Decidable (shown filter actual ≠ expected))
  | .checkExitStatus _ actual expected => inferInstanceAs (Decidable (actual ≠ expected))
  | .line _ | .message _ | .advance | .summary => .isFalse id

/-- An operation, and whether it went through. -/
structure Entry where
  operation : Operation
  completed : Bool
  deriving DecidableEq, Repr

/-- Whether the entry closes the current testcase. -/
def Entry.closes (e : Entry) : Bool :=
  e.operation = .advance && e.completed

/-- The entries since a testcase was last closed. -/
def sinceClosing (es : List Entry) : List Entry :=
  es.rtakeWhile fun e => !e.closes

end Report

/-- The counts after an entry of the journal. -/
def Tally.note (t : Tally) (e : Report.Entry) : Tally :=
  if e.closes then t.next else t.mark (¬ e.operation.Marks)

namespace Report

variable {ω α β : Type} [Channel ω]

/-- Do an operation; what a check answers is known from its arguments. -/
def Operation.run : Operation → Reporting ω Unit
  | .line text => Report.line text
  | .message text => Report.message text
  | .fail reason => Report.fail reason
  | .check channel command actual expected filter =>
    discard (Report.check channel command actual expected filter)
  | .checkExitStatus command actual expected =>
    discard (Report.checkExitStatus command actual expected)
  | .advance => Report.advance
  | .summary => Report.summary

/-- Do an operation and note it. -/
def perform (r : Report ω) (op : Operation) : Entry × Report ω :=
  match op.run r with
  | .ok _ r' => (⟨op, true⟩, r')
  | .error _ r' => (⟨op, false⟩, r')

/-- The report after some operations, whichever of them went through. -/
def after (r : Report ω) (ops : List Operation) : Report ω :=
  ops.foldl (fun r op => (perform r op).2) r

/-- The journal of some operations. -/
def journal (r : Report ω) : List Operation → List Entry
  | [] => []
  | op :: ops => (perform r op).1 :: journal (perform r op).2 ops

theorem after_concat (r : Report ω) (ops : List Operation) (op : Operation) :
    after r (ops ++ [op]) = (perform (after r ops) op).2 := by
  simp [after]

theorem journal_append (r : Report ω) (ops ops' : List Operation) :
    journal r (ops ++ ops') = journal r ops ++ journal (after r ops) ops' := by
  induction ops generalizing r with
  | nil => rfl
  | cons op ops ih => simp only [List.cons_append, journal, ih, after, List.foldl_cons]

theorem length_journal (r : Report ω) (ops : List Operation) :
    (journal r ops).length = ops.length := by
  induction ops generalizing r with
  | nil => rfl
  | cons op ops ih => rw [journal, List.length_cons, List.length_cons, ih]

/-! ## What an operation does to the counts -/

/-- The action takes the counts from `t` to `t'`, whether or not it goes through. -/
def Settles (t t' : Tally) (x : Reporting ω α) : Prop :=
  ∀ out, Ends (·.tally = t') x ⟨t, out⟩ fun _ r => r.tally = t'

section

variable {t t' t'' : Tally} {x : Reporting ω α}

omit [Channel ω] in
theorem Settles.bind {f : α → Reporting ω β} (hx : Settles t t' x)
    (hf : ∀ a, Settles t' t' (f a)) : Settles t t' (x >>= f) := fun out =>
  (hx out).bind fun a r hr => hr ▸ hf a r.out

omit [Channel ω] in
theorem settles_pure (t : Tally) (a : α) : Settles t t (pure a : Reporting ω α) := fun _ => rfl

theorem settles_line (t : Tally) (text : String) : Settles t t (line text : Reporting ω Unit) := by
  intro out
  unfold Ends line
  cases Channel.put (text ++ "\n") out <;> rfl

theorem settles_lines (t : Tally) (ls : List String) :
    Settles t t (lines ls : Reporting ω Unit) := by
  induction ls with
  | nil => exact settles_pure t ()
  | cons l ls ih => exact (settles_line t l).bind fun _ => ih

theorem settles_message (t : Tally) (text : String) :
    Settles t t (message text : Reporting ω Unit) := fun out =>
  settles_line t (t.tagged text) out

theorem settles_summary (t : Tally) : Settles t t (summary : Reporting ω Unit) := fun out =>
  settles_line t t.summary out

/-- The testcase is marked before the reason is written. -/
theorem settles_fail (t : Tally) (reason : String) :
    Settles t t.markFailed (fail reason : Reporting ω Unit) := fun out =>
  settles_message t.markFailed ("FAIL: " ++ reason) out

theorem settles_check (t : Tally) (channel command : String) (actual expected : List String)
    (filter : Bool) :
    Settles t (t.mark (agrees filter actual expected))
      (check channel command actual expected filter : Reporting ω Bool) := by
  unfold check
  cases agrees filter actual expected with
  | true =>
    -- Listing the hidden lines may be refused, but it marks nothing.
    cases hasDebug filter actual with
    | true =>
      exact (settles_line t _).bind fun _ => (settles_lines t _).bind fun _ => settles_pure t true
    | false => exact settles_pure t true
  | false =>
    exact (settles_fail t _).bind fun _ => (settles_line _ _).bind fun _ =>
      (settles_lines _ _).bind fun _ => settles_pure _ false

theorem settles_checkExitStatus (t : Tally) (command : String) (actual expected : Int) :
    Settles t (t.mark (actual = expected))
      (checkExitStatus command actual expected : Reporting ω Bool) := by
  unfold checkExitStatus
  by_cases h : actual = expected
  · simp only [h, if_true, decide_true]
    exact settles_pure t true
  · simp only [h, if_false, decide_false]
    exact (settles_fail t _).bind fun _ => settles_pure _ false

/-- The verdict is written before the testcase is counted. -/
theorem ends_advance (t : Tally) (out : ω) :
    Ends (·.tally = t) advance (⟨t, out⟩ : Report ω) fun _ r => r.tally = t.next := by
  have hcount (out : ω) :
      Ends (·.tally = t) (count .next) (⟨t, out⟩ : Report ω) fun _ r => r.tally = t.next := rfl
  unfold advance
  rw [Ends, bind_of_ok (rfl : counts _ = .ok t _)]
  cases t.closing? with
  | some text => exact (settles_message t text out).bind fun _ r hr => hr ▸ hcount r.out
  | none => exact hcount out

end

/-- An operation that is no `advance` takes the counts to where its entry says. -/
theorem settles_run (t : Tally) {op : Operation} (h : op ≠ .advance) :
    Settles t (t.mark (¬ op.Marks)) (op.run : Reporting ω Unit) := by
  cases op with
  | line text => exact settles_line t text
  | message text => exact settles_message t text
  | fail reason => exact settles_fail t reason
  | check channel command actual expected filter =>
    have hmarks : decide (¬ Operation.Marks (.check channel command actual expected filter)) =
        agrees filter actual expected := by
      simp [Operation.Marks, agrees_eq]
    rw [hmarks]
    exact (settles_check t channel command actual expected filter).bind fun _ => settles_pure _ ()
  | checkExitStatus command actual expected =>
    have hmarks : decide (¬ Operation.Marks (.checkExitStatus command actual expected)) =
        decide (actual = expected) := by
      simp [Operation.Marks]
    rw [hmarks]
    exact (settles_checkExitStatus t command actual expected).bind fun _ => settles_pure _ ()
  | advance => exact absurd rfl h
  | summary => exact settles_summary t

/-- **Each operation moves the counts as its entry says.** -/
theorem tally_perform (r : Report ω) (op : Operation) :
    (perform r op).2.tally = r.tally.note (perform r op).1 := by
  unfold perform Tally.note
  by_cases h : op = .advance
  · have hends := ends_advance r.tally r.out
    subst h
    unfold Ends at hends
    show (match advance r with | .ok _ r' => _ | .error _ r' => _ : Entry × Report ω).2.tally = _
    cases hr : advance r <;> rw [show advance ⟨r.tally, r.out⟩ = _ from hr] at hends <;>
      simpa [Operation.run, hr, Entry.closes, Operation.Marks, Tally.mark] using hends
  · have hends := settles_run r.tally h r.out
    unfold Ends at hends
    cases hr : op.run r <;> rw [show op.run ⟨r.tally, r.out⟩ = _ from hr] at hends <;>
      simpa [Entry.closes, h] using hends

/-! ## Journals -/

/-- What an operation does is noted. -/
theorem tally_after_concat (r : Report ω) (ops : List Operation) (op : Operation) :
    (after r (ops ++ [op])).tally =
      (after r ops).tally.note (perform (after r ops) op).1 := by
  rw [after_concat, tally_perform]

theorem journal_concat (r : Report ω) (ops : List Operation) (op : Operation) :
    journal r (ops ++ [op]) = journal r ops ++ [(perform (after r ops) op).1] :=
  journal_append r ops [op]

theorem index_after (r : Report ω) (ops : List Operation) :
    (after r ops).tally.index = r.tally.index + (journal r ops).countP Entry.closes := by
  induction ops using List.reverseRecOn with
  | nil => rfl
  | append_singleton ops op ih =>
    rw [tally_after_concat, journal_concat, List.countP_append, List.countP_singleton]
    unfold Tally.note
    split
    · rw [Tally.next, ih, Nat.add_assoc]
    · rw [Tally.index_mark, ih, Nat.add_zero]

/-- The current testcase has failed exactly if it was marked since one was last closed. -/
theorem failed_after {r : Report ω} (hr : r.tally.failed = false) (ops : List Operation) :
    (after r ops).tally.failed = true ↔
      ∃ e ∈ sinceClosing (journal r ops), e.operation.Marks := by
  induction ops using List.reverseRecOn with
  | nil => simp [after, journal, sinceClosing, hr]
  | append_singleton ops op ih =>
    rw [tally_after_concat, journal_concat, sinceClosing, List.rtakeWhile_concat]
    unfold Tally.note
    cases (perform (after r ops) op).1.closes with
    | true => simp [Tally.next]
    | false =>
      rw [sinceClosing] at ih
      simp [ih, or_and_right, exists_or]

/-- The positions in the journal at which a testcase was closed that had failed. -/
def failedClosings (r : Report ω) (ops : List Operation) : List Nat :=
  (List.range ops.length).filter fun i =>
    (journal r ops)[i]?.any Entry.closes && (after r (ops.take i)).tally.failed

theorem failedClosings_concat (r : Report ω) (ops : List Operation) (op : Operation) :
    failedClosings r (ops ++ [op]) = failedClosings r ops ++
      if (perform (after r ops) op).1.closes && (after r ops).tally.failed then [ops.length]
      else [] := by
  have hbefore : ∀ i ∈ List.range ops.length,
      ((journal r (ops ++ [op]))[i]?.any Entry.closes &&
          (after r ((ops ++ [op]).take i)).tally.failed) =
        ((journal r ops)[i]?.any Entry.closes && (after r (ops.take i)).tally.failed) := by
    intro i hi
    have hlt : i < ops.length := List.mem_range.1 hi
    rw [journal_concat, List.getElem?_append_left (by rwa [length_journal]),
      List.take_append_of_le_length hlt.le]
  have hlast : (journal r (ops ++ [op]))[ops.length]? = some (perform (after r ops) op).1 := by
    rw [journal_concat, List.getElem?_append_right (by rw [length_journal]), length_journal]
    simp
  rw [failedClosings, List.length_append, List.length_singleton, List.range_succ,
    List.filter_append, List.filter_congr hbefore, List.filter_singleton, hlast]
  simp [failedClosings]

theorem failures_after (r : Report ω) (ops : List Operation) :
    (after r ops).tally.failures = r.tally.failures + (failedClosings r ops).length := by
  induction ops using List.reverseRecOn with
  | nil => rfl
  | append_singleton ops op ih =>
    rw [tally_after_concat, failedClosings_concat, List.length_append, ← Nat.add_assoc, ← ih]
    unfold Tally.note
    cases (perform (after r ops) op).1.closes with
    | true => cases h : (after r ops).tally.failed <;> simp [Tally.next, h]
    | false => simp

/-- No entry counts more failures than testcases. -/
theorem failures_lt_index_after {r : Report ω} (hr : r.tally.failures < r.tally.index)
    (ops : List Operation) : (after r ops).tally.failures < (after r ops).tally.index := by
  induction ops using List.reverseRecOn with
  | nil => exact hr
  | append_singleton ops op ih =>
    rw [tally_after_concat]
    unfold Tally.note
    split
    · unfold Tally.next
      dsimp only
      split <;> omega
    · rwa [Tally.failures_mark, Tally.index_mark]

/-! ## Trying again -/

/-- An `advance` that does not go through counts nothing. -/
theorem tally_of_advance_error {r r' : Report ω} {fault : Fault}
    (h : advance r = .error fault r') : r'.tally = r.tally := by
  have hends := ends_advance r.tally r.out
  rwa [Ends, show advance ⟨r.tally, r.out⟩ = _ from h] at hends

/-- However often the `advance` of a testcase is tried, the testcase is counted once. -/
theorem tally_retried {r : Report ω} {n : Nat}
    (h : journal r (List.replicate (n + 1) .advance) =
      List.replicate n ⟨.advance, false⟩ ++ [⟨.advance, true⟩]) :
    (after r (List.replicate (n + 1) .advance)).tally = r.tally.next := by
  induction n generalizing r with
  | zero =>
    have hentry : (perform r .advance).1 = ⟨.advance, true⟩ := (List.cons.inj h).1
    show (perform r .advance).2.tally = r.tally.next
    rw [tally_perform, hentry]
    rfl
  | succ n ih =>
    obtain ⟨hentry, hrest⟩ := List.cons.inj h
    have htally : (perform r .advance).2.tally = r.tally := by
      rw [tally_perform, show (perform r .advance).1 = _ from hentry]
      rfl
    exact (ih hrest).trans (by rw [htally])

/-- **The counts of a report.** Whatever was asked of a report and whichever lines its channel
refused, its counts are those of its journal, and an `advance` that is refused can be tried again.
-/
theorem counts_after (label : String) (verbose : Bool) (out : ω) (ops : List Operation) :
    let r := start label verbose out
    let t := (after r ops).tally
    t.index = (journal r ops).countP Entry.closes + 1 ∧
    (t.failed = true ↔ ∃ e ∈ sinceClosing (journal r ops), e.operation.Marks) ∧
    t.failures = (failedClosings r ops).length ∧
    t.results.1 ≤ t.results.2 ∧
    (∀ fault r', advance (after r ops) = .error fault r' → r'.tally = t) ∧
    ∀ n, journal (after r ops) (List.replicate (n + 1) .advance) =
        List.replicate n ⟨.advance, false⟩ ++ [⟨.advance, true⟩] →
      (after r (ops ++ List.replicate (n + 1) .advance)).tally = t.next := by
  intro r t
  have hindex : t.index = (journal r ops).countP Entry.closes + 1 :=
    (index_after r ops).trans (Nat.add_comm _ _)
  have hfailures : t.failures = (failedClosings r ops).length :=
    (failures_after r ops).trans (Nat.zero_add _)
  refine ⟨hindex, failed_after rfl ops, hfailures, ?_, fun _ _ => tally_of_advance_error, ?_⟩
  · exact Nat.le_sub_one_of_lt (failures_lt_index_after Nat.zero_lt_one ops)
  · intro n hn
    rw [after, List.foldl_append]
    exact tally_retried hn

/-- A channel that takes or refuses each line as it was told beforehand, and takes all lines after
those. -/
structure Flaky where
  takes : List Bool
  deriving DecidableEq, Repr

instance : Channel Flaky where
  put _ := fun c =>
    match c.takes with
    | [] => .ok () c
    | true :: takes => .ok () ⟨takes⟩
    | false :: takes => .error .closedChannel ⟨takes⟩

/-- A report that is refused the listing of a check that holds, the reason of a failure and then the
verdict, twice, before its channel takes the verdict. -/
def hinderedReport : Report Flaky :=
  start "a.t" true ⟨[false, false, false, false, true]⟩

/-- A check that holds with a hidden line, a failure and a first try to close the testcase. -/
def hinderedOperations : List Operation :=
  [.check "stdout" "cat" ["#a", "b"] ["b"] true, .fail "out of order", .advance]

theorem counts_after_hindered :
    let t := (after hinderedReport hinderedOperations).tally
    (∃ fault r', advance (after hinderedReport hinderedOperations) = .error fault r' ∧
      r'.tally = t) ∧
    journal (after hinderedReport hinderedOperations) [.advance, .advance] =
      [⟨.advance, false⟩, ⟨.advance, true⟩] ∧
    t.index = 1 ∧ t.failed = true ∧ t.failures = 0 ∧
    (after hinderedReport (hinderedOperations ++ [.advance, .advance])).tally = t.next := by
  intro t
  obtain ⟨hindex, hfailed, hfailures, -, herror, hretry⟩ :=
    counts_after "a.t" true (⟨[false, false, false, false, true]⟩ : Flaky) hinderedOperations
  have hrefused : advance (after hinderedReport hinderedOperations) =
      .error .closedChannel ⟨t, ⟨[true]⟩⟩ := rfl
  have hjournal : journal (after hinderedReport hinderedOperations) [.advance, .advance] =
      [⟨.advance, false⟩, ⟨.advance, true⟩] := by decide
  exact ⟨⟨_, _, hrefused, herror _ _ hrefused⟩, hjournal, hindex.trans (by decide),
    hfailed.2 (by decide), hfailures.trans (by decide), hretry 1 hjournal⟩

end Report

end CommandSpec
