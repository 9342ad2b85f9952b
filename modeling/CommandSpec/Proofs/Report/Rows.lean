import CommandSpec.Proofs.Sequence
import CommandSpec.Report.Check
import CommandSpec.Text.Lines

/-!
# The lines that a check writes

`channelRows` and `statusRows` are the lines that the checks of a testcase write, as lists. A report
whose sink never refuses goes through each operation with the lines of that operation appended to
its text; the lemmas below say so, one for each operation.
-/

namespace CommandSpec

/-- The counts after a check: a check that does not hold marks the current testcase failed. -/
def Tally.mark (t : Tally) (holds : Bool) : Tally :=
  if holds then t else t.markFailed

@[simp] theorem Tally.label_mark (t : Tally) (b : Bool) : (t.mark b).label = t.label := by
  cases b <;> rfl

@[simp] theorem Tally.index_mark (t : Tally) (b : Bool) : (t.mark b).index = t.index := by
  cases b <;> rfl

@[simp] theorem Tally.verbose_mark (t : Tally) (b : Bool) : (t.mark b).verbose = t.verbose := by
  cases b <;> rfl

@[simp] theorem Tally.failures_mark (t : Tally) (b : Bool) :
    (t.mark b).failures = t.failures := by
  cases b <;> rfl

@[simp] theorem Tally.failed_mark (t : Tally) (b : Bool) :
    (t.mark b).failed = (t.failed || !b) := by
  cases b <;> simp [mark, markFailed]

/-! ## Blocks -/

@[simp] theorem blockOfLines_nil : blockOfLines [] = "" := rfl

theorem blockOfLines_append (ls ms : List String) :
    blockOfLines (ls ++ ms) = blockOfLines ls ++ blockOfLines ms := by
  simp [blockOfLines, Text.block]

theorem blockOfLines_singleton (l : String) : blockOfLines [l] = l ++ "\n" := by
  simp [blockOfLines, Text.block]

namespace Report

/-! ## What a check compares -/

theorem hasDebug_eq (filter : Bool) (actual : List String) :
    hasDebug filter actual = actual.any (isHidden filter) := by
  cases filter with
  | true => rfl
  | false => simp [hasDebug, isHidden]

/-- A comparison one by one sees no line beyond the shorter side, but the lengths do. -/
theorem zip_all_eq_iff {as bs : List String} :
    (as.length = bs.length && (as.zip bs).all fun (a, b) => a = b) = true ↔ as = bs := by
  induction as generalizing bs with
  | nil => cases bs <;> simp
  | cons a as ih =>
    cases bs with
    | nil => simp
    | cons b bs =>
      rw [List.cons.injEq, ← ih]
      simp [and_left_comm]

/-- **Both ways to compare.** Whether or not lines are left out, a channel agrees exactly if what is
left of it is what was expected. -/
theorem agrees_iff {filter : Bool} {actual expected : List String} :
    agrees filter actual expected = true ↔ shown filter actual = expected := by
  cases h : hasDebug filter actual with
  | true =>
    have hfilter : filter = true := (Bool.and_eq_true_iff.1 h).1
    have hkept : (actual.filter fun line => !isDebug line) = shown filter actual := by
      rw [hfilter]
      rfl
    rw [agrees, if_pos h, hkept]
    exact zip_all_eq_iff
  | false =>
    have hshown : shown filter actual = actual := by
      rw [hasDebug_eq, List.any_eq_false] at h
      exact List.filter_eq_self.2 fun line hline => by simp [h line hline]
    rw [agrees, if_neg (by rw [h]; decide), decide_eq_true_iff, hshown]

theorem agrees_eq (filter : Bool) (actual expected : List String) :
    agrees filter actual expected = decide (shown filter actual = expected) := by
  rw [Bool.eq_iff_iff, agrees_iff, decide_eq_true_iff]

/-! ## Lines about a testcase -/

/-- The line that tells something of the `k`-th testcase of a spec. -/
def tagged (label : String) (k : Nat) (text : String) : String :=
  label ++ " #" ++ toString k ++ ": " ++ text

/-- What is written about one channel of the `k`-th testcase: the difference, or else all lines if
some of them are hidden. -/
def channelRows (label : String) (k : Nat) (filter : Bool) (channel command : String)
    (actual expected : List String) : List String :=
  if agrees filter actual expected then
    if actual.any (isHidden filter) then
      listingHeader channel :: (listing actual).map Row.render
    else []
  else
    tagged label k ("FAIL: " ++ (channel ++ " differs for: " ++ command)) ::
      diffHeader channel :: (diff filter actual expected).map Row.render

/-- What is written about the exit status of the `k`-th testcase. -/
def statusRows (label : String) (k : Nat) (command : String) (actual expected : Int) :
    List String :=
  if actual = expected then []
  else
    [tagged label k ("FAIL: " ++ ("exit status " ++ toString actual ++ ", expected " ++
      toString expected ++ " for: " ++ command))]

/-! ## Operations on a report that is never refused -/

variable (t : Tally) (out : String)

theorem line_unlimited (text : String) :
    line text (⟨t, ⟨out, none⟩⟩ : Report Sink) =
      .ok () ⟨t, ⟨out ++ blockOfLines [text], none⟩⟩ := by
  rw [blockOfLines_singleton]
  rfl

theorem lines_unlimited (ls : List String) :
    lines ls (⟨t, ⟨out, none⟩⟩ : Report Sink) = .ok () ⟨t, ⟨out ++ blockOfLines ls, none⟩⟩ := by
  induction ls generalizing out with
  | nil => simp [lines, pure, EStateM.pure]
  | cons l ls ih =>
    rw [lines, bind_of_ok (line_unlimited t out l), ih, String.append_assoc,
      ← blockOfLines_append]
    rfl

theorem message_unlimited (text : String) :
    message text (⟨t, ⟨out, none⟩⟩ : Report Sink) =
      .ok () ⟨t, ⟨out ++ blockOfLines [tagged t.label t.index text], none⟩⟩ :=
  line_unlimited t out _

theorem fail_unlimited (reason : String) :
    fail reason (⟨t, ⟨out, none⟩⟩ : Report Sink) =
      .ok () ⟨t.markFailed,
        ⟨out ++ blockOfLines [tagged t.label t.index ("FAIL: " ++ reason)], none⟩⟩ :=
  message_unlimited t.markFailed out _

theorem advance_unlimited :
    advance (⟨t, ⟨out, none⟩⟩ : Report Sink) =
      .ok () ⟨t.next,
        ⟨out ++ blockOfLines (t.closing?.toList.map (tagged t.label t.index)), none⟩⟩ := by
  unfold advance
  rw [bind_of_ok (rfl : counts _ = .ok t _)]
  cases h : t.closing? with
  | none =>
    rw [Option.toList_none, List.map_nil, blockOfLines_nil, String.append_empty]
    rfl
  | some text =>
    simp only [bind_of_ok (message_unlimited t out text)]
    rfl

theorem summary_unlimited :
    summary (⟨t, ⟨out, none⟩⟩ : Report Sink) =
      .ok () ⟨t, ⟨out ++ blockOfLines [t.summary], none⟩⟩ :=
  line_unlimited t out _

theorem check_unlimited (channel command : String) (actual expected : List String)
    (filter : Bool) :
    check channel command actual expected filter (⟨t, ⟨out, none⟩⟩ : Report Sink) =
      .ok (agrees filter actual expected)
        ⟨t.mark (agrees filter actual expected),
          ⟨out ++ blockOfLines
            (channelRows t.label t.index filter channel command actual expected), none⟩⟩ := by
  unfold check channelRows
  rw [← hasDebug_eq]
  cases hagrees : agrees filter actual expected with
  | true =>
    cases hany : hasDebug filter actual with
    | true =>
      simp only [if_true]
      rw [bind_of_ok (line_unlimited t out _), bind_of_ok (lines_unlimited t _ _),
        String.append_assoc, ← blockOfLines_append]
      rfl
    | false => simp [pure, EStateM.pure, Tally.mark]
  | false =>
    simp only [if_false, Bool.false_eq_true]
    rw [bind_of_ok (fail_unlimited t out _), bind_of_ok (line_unlimited _ _ _),
      bind_of_ok (lines_unlimited _ _ _), String.append_assoc, String.append_assoc,
      ← blockOfLines_append, ← blockOfLines_append]
    rfl

theorem checkExitStatus_unlimited (command : String) (actual expected : Int) :
    checkExitStatus command actual expected (⟨t, ⟨out, none⟩⟩ : Report Sink) =
      .ok (actual = expected)
        ⟨t.mark (actual = expected),
          ⟨out ++ blockOfLines (statusRows t.label t.index command actual expected), none⟩⟩ := by
  unfold checkExitStatus statusRows
  by_cases h : actual = expected
  · simp [h, pure, EStateM.pure, Tally.mark]
  · simp only [h, if_false]
    rw [bind_of_ok (fail_unlimited t out _)]
    simp [pure, EStateM.pure, Tally.mark]

end Report

end CommandSpec
