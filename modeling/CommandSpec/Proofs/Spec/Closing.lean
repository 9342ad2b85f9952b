import CommandSpec.Proofs.Spec.Succession
import Mathlib.Data.List.Induction

/-!
# Where testcases are closed

A testcase is closed by the next `!` line or by the end of the spec (`closingLine`), and nothing
that follows can change it.

**Theorem (`closes_take`).** The first `m` lines of a spec close the testcases that have a `!` line
after them among these lines.

**Theorem (`exists_closing`).** When the closing line of a testcase comes, the testcases before it
are closed and it is the one that is pending.

Both are read off the draft. It closes what it holds at every `!` line, so that a testcase among
those that it closes has such a line to itself (`exists_split_of_closes`); and what it holds goes
back to the last `!` line that it took (`exists_command_of_pending?`).
-/

namespace CommandSpec

variable {α : Type} {reads : α → Directive}

/-- The number of the `!` line that closes the testcase of line `n`. If there is none, it is the
number that a line after the last would have. -/
def closingLine (reads : α → Directive) (ls : List α) (n : Nat) : Nat :=
  n + (ls.drop n).findIdx (fun l => (reads l).isCommand) + 1

/-- The closing line follows the body of the testcase. -/
theorem closingLine_eq {before body rest : List α} {n : Nat} (hn : before.length = n)
    (hbody : ∀ l ∈ body, (reads l).isCommand = false)
    (hrest : ∀ l ∈ rest.head?, (reads l).isCommand = true) :
    closingLine reads (before ++ body ++ rest) n = (before ++ body).length + 1 := by
  have hskip : body.findIdx (fun l => (reads l).isCommand) = body.length :=
    List.findIdx_eq_length.2 hbody
  have hstop : rest.findIdx (fun l => (reads l).isCommand) = 0 := by
    cases rest with
    | nil => rfl
    | cons l rest => simp [List.findIdx_cons, hrest l rfl]
  rw [closingLine, List.append_assoc, ← hn, List.drop_left, List.findIdx_append, hskip, hstop,
    if_neg (Nat.lt_irrefl _), Nat.zero_add, List.length_append]

/-! ## The first lines of a spec -/

theorem drop_cons_sub {n k : Nat} (h : n < k) (l : α) (ls : List α) :
    (l :: ls).drop (k - n) = ls.drop (k - (n + 1)) := by
  have hsub : k - n = k - (n + 1) + 1 := by omega
  rw [hsub, List.drop_succ_cons]

theorem le_line_of_mem_segments {n : Nat} {ls : List α} {s : Segment α}
    (h : s ∈ segments reads n ls) : n ≤ s.line := by
  induction ls using command_induction reads generalizing n with
  | nil => simp [segments] at h
  | command l ls text htext ih =>
    rw [segments_cons_command htext] at h
    rcases List.mem_cons.1 h with rfl | h
    · exact Nat.le_refl n
    · exact Nat.le_of_succ_le (ih h)
  | other l ls hl ih =>
    rw [segments_cons hl] at h
    exact Nat.le_of_succ_le (ih h)

namespace Draft

variable {d : Draft} {earlier later : List Testcase} {tc : Testcase}

/-- A draft that starts a testcase closes none of an earlier line. -/
theorem le_line_of_mem_due {text : String} {n : Nat} {ls : List α}
    (h : tc ∈ (⟨.start text n, true, n⟩ : Draft).due reads ls) : n ≤ tc.line := by
  rw [due, stretches_of_started rfl] at h
  rcases List.mem_cons.1 h with rfl | h
  · exact Nat.le_refl n
  · obtain ⟨stretch, hstretch, htc⟩ := List.mem_filterMap.1 h
    obtain ⟨s, hs, rfl⟩ := List.mem_map.1 hstretch
    cases htc
    exact Nat.le_of_succ_le (le_line_of_mem_segments hs)

/-- The testcase under construction is of a line that was taken. -/
theorem line_current_take_le (h : d.current.line ≤ d.line) (x : Directive) :
    (d.take x).2.current.line ≤ (d.take x).2.line := by
  rw [line_take]
  cases hr : x.rejection? d.started with
  | some r =>
    rw [take_of_rejected hr]
    show (d.spoiled (d.line + 1)).line ≤ d.line + 1
    unfold spoiled
    split
    · exact Nat.le_succ_of_le h
    · exact Nat.le_refl _
  | none =>
    cases x with
    | command text => exact Nat.le_refl _
    | _ =>
      rw [take_of_accepted rfl hr]
      exact Nat.le_succ_of_le h

/-- Of the testcases that are due, the first `m` lines close those that have a `!` line after them
among these lines. -/
theorem closes_take_eq_filter (h : d.current.line ≤ d.line) (ls : List α) (m : Nat) :
    d.closes ((ls.take m).map reads) = (d.due reads ls).filter fun tc =>
      ((ls.take m).drop (tc.line - d.line)).any fun l => (reads l).isCommand := by
  induction ls using command_induction reads generalizing d m with
  | nil => simp [closes, answers]
  | command l ls text htext ih =>
    cases m with
    | zero => simp [closes, answers]
    | succ m =>
      have hl : (reads l).isCommand = true := htext ▸ rfl
      -- What is pending is closed by `l`, and `l` closes nothing that comes later.
      have hpending : d.pending?.toList.filter (fun tc =>
          ((l :: ls.take m).drop (tc.line - d.line)).any fun l => (reads l).isCommand) =
          d.pending?.toList := by
        refine List.filter_eq_self.2 fun tc htc => ?_
        obtain rfl : tc = d.current := by
          unfold pending? at htc
          split at htc <;> simp_all
        simp [Nat.sub_eq_zero_of_le h, hl]
      rw [List.take_succ_cons, List.map_cons, closes_cons_command htext, due_cons_command htext,
        List.filter_append, hpending, ih (Nat.le_refl _)]
      refine congrArg _ (List.filter_congr fun tc htc => ?_)
      rw [drop_cons_sub (le_line_of_mem_due htc)]
  | other l ls hl ih =>
    cases m with
    | zero => simp [closes, answers]
    | succ m =>
      rw [List.take_succ_cons, List.map_cons, closes_cons_other hl, due_cons hl,
        ih (line_current_take_le h _), line_take]
      refine List.filter_congr fun tc _ => ?_
      rcases Nat.lt_or_ge d.line tc.line with hlt | hge
      · rw [drop_cons_sub hlt]
      · simp [Nat.sub_eq_zero_of_le hge, Nat.sub_eq_zero_of_le (Nat.le_succ_of_le hge), hl]

/-- **The testcases that the first lines close.** -/
theorem closes_take (ls : List α) (m : Nat) :
    Draft.empty.closes ((ls.take m).map reads) = (testcases reads ls).filter fun tc =>
      ((ls.take m).drop tc.line).any fun l => (reads l).isCommand := by
  rw [closes_take_eq_filter (Nat.le_refl _), due_empty]
  rfl

/-- The error of a rejected line names one of the lines that were taken. -/
theorem line_of_mem_rejections {xs : List Directive} {e : RunError} (h : e ∈ d.rejections xs) :
    ∃ n, e.line = some n ∧ d.line < n ∧ n ≤ d.line + xs.length := by
  induction xs generalizing d with
  | nil => simp [rejections, answers] at h
  | cons x xs ih =>
    rw [rejections_cons, List.mem_append, rejected?_take] at h
    rcases h with h | h
    · obtain ⟨r, -, rfl⟩ : ∃ r, x.rejection? d.started = some r ∧ r.error (d.line + 1) = e := by
        simpa using h
      exact ⟨d.line + 1, rfl, Nat.lt_succ_self _, by simp⟩
    · obtain ⟨n, hn, hlt, hle⟩ := ih h
      rw [line_take] at hlt hle
      exact ⟨n, hn, Nat.lt_of_succ_lt hlt, by rw [List.length_cons]; omega⟩

/-- The first lines are rejected as they are in the whole spec. -/
theorem rejections_take (d : Draft) (xs : List Directive) (m : Nat) :
    d.rejections (xs.take m) =
      (d.rejections xs).filter fun e => e.line.any fun n => n ≤ d.line + m := by
  rcases Nat.le_total xs.length m with hm | hm
  · rw [List.take_of_length_le hm, eq_comm, List.filter_eq_self]
    intro e he
    obtain ⟨n, hn, -, hle⟩ := line_of_mem_rejections he
    simp [hn]
    omega
  · have hlength : (xs.take m).length = m := List.length_take_of_le hm
    have hfirst : (d.rejections (xs.take m)).filter (fun e => e.line.any fun n => n ≤ d.line + m) =
        d.rejections (xs.take m) := by
      refine List.filter_eq_self.2 fun e he => ?_
      obtain ⟨n, hn, -, hle⟩ := line_of_mem_rejections he
      rw [hlength] at hle
      simpa [hn] using hle
    have hlater : ((d.after (xs.take m)).rejections (xs.drop m)).filter
        (fun e => e.line.any fun n => n ≤ d.line + m) = [] := by
      refine List.filter_eq_nil_iff.2 fun e he => ?_
      obtain ⟨n, hn, hlt, -⟩ := line_of_mem_rejections he
      rw [line_after, hlength] at hlt
      simpa [hn] using hlt
    calc d.rejections (xs.take m)
      _ = (d.rejections (xs.take m ++ xs.drop m)).filter
            fun e => e.line.any fun n => n ≤ d.line + m := by
        rw [rejections_append, List.filter_append, hfirst, hlater, List.append_nil]
      _ = _ := by rw [List.take_append_drop]

/-! ## The line that closes a testcase -/

/-- A testcase that is closed is pending when a `!` line closes it. -/
theorem exists_split_of_closes {ls : List α}
    (h : d.closes (ls.map reads) = earlier ++ tc :: later) :
    ∃ before l rest, ls = before ++ l :: rest ∧ (reads l).isCommand = true ∧
      d.closes (before.map reads) = earlier ∧
      (d.after (before.map reads)).pending? = some tc := by
  induction ls using command_induction reads generalizing d earlier with
  | nil => simp [closes, answers] at h
  | command l ls text htext ih =>
    have hl : (reads l).isCommand = true := htext ▸ rfl
    rw [List.map_cons, closes_cons_command htext] at h
    have hnext : ∀ before : List α, d.after ((l :: before).map reads) =
        (⟨.start text (d.line + 1), true, d.line + 1⟩ : Draft).after (before.map reads) := by
      intro before
      rw [List.map_cons, after_cons, htext, take_command]
    -- The line `l` closes no testcase, or `tc` itself, or one before it.
    cases hp : d.pending? with
    | none =>
      rw [hp] at h
      obtain ⟨before, l', rest, rfl, hl', hcloses, hheld⟩ := ih h
      refine ⟨l :: before, l', rest, rfl, hl', ?_, (hnext before).symm ▸ hheld⟩
      rw [List.map_cons, closes_cons_command htext, hp, hcloses]
      rfl
    | some held =>
      rw [hp] at h
      cases earlier with
      | nil =>
        obtain ⟨rfl, -⟩ := List.cons_eq_cons.1 h
        exact ⟨[], l, ls, rfl, hl, rfl, hp⟩
      | cons first earlier =>
        obtain ⟨rfl, hrest⟩ := List.cons_eq_cons.1 h
        obtain ⟨before, l', rest, rfl, hl', hcloses, hheld⟩ := ih hrest
        refine ⟨l :: before, l', rest, rfl, hl', ?_, (hnext before).symm ▸ hheld⟩
        rw [List.map_cons, closes_cons_command htext, hp, hcloses]
        rfl
  | other l ls hl ih =>
    rw [List.map_cons, closes_cons_other hl] at h
    obtain ⟨before, l', rest, rfl, hl', hcloses, hheld⟩ := ih h
    refine ⟨l :: before, l', rest, rfl, hl', ?_, hheld⟩
    rw [List.map_cons, closes_cons_other hl, hcloses]

/-- A testcase that is due is pending when a `!` line or the end of the spec closes it. -/
theorem exists_split_of_due {ls : List α} (h : d.due reads ls = earlier ++ tc :: later) :
    ∃ before rest, ls = before ++ rest ∧ (∀ l ∈ rest.head?, (reads l).isCommand = true) ∧
      d.closes (before.map reads) = earlier ∧
      (d.after (before.map reads)).pending? = some tc := by
  rw [← closes_append_pending?] at h
  have hclosed : ∀ later, d.closes (ls.map reads) = earlier ++ tc :: later →
      ∃ before rest, ls = before ++ rest ∧ (∀ l ∈ rest.head?, (reads l).isCommand = true) ∧
        d.closes (before.map reads) = earlier ∧
        (d.after (before.map reads)).pending? = some tc := by
    intro later h
    obtain ⟨before, l, rest, rfl, hl, hcloses, hheld⟩ := exists_split_of_closes h
    exact ⟨before, l :: rest, rfl, by simpa using hl, hcloses, hheld⟩
  cases hp : (d.after (ls.map reads)).pending? with
  | none => exact hclosed later (by simpa [hp] using h)
  | some held =>
    rw [hp, Option.toList_some] at h
    rcases List.eq_nil_or_concat later with rfl | ⟨later, last, rfl⟩
    · obtain ⟨hcloses, hheld⟩ := List.append_inj' h rfl
      cases hheld
      exact ⟨ls, [], by simp, by simp, hcloses, hp⟩
    · rw [List.concat_eq_append, ← List.cons_append, ← List.append_assoc] at h
      exact hclosed later (List.append_inj' h rfl).1

theorem pending?_of_started (h : d.started = true) : d.pending? = some d.current := by
  simp [pending?, h]

/-- Before the first `!` line, only an orphan is held. -/
theorem malformed_of_pending? (hd : d.started = false) (h : d.pending? = some tc) :
    tc.malformed = true := by
  obtain ⟨hm, rfl⟩ : d.current.malformed = true ∧ d.current = tc := by simpa [pending?, hd] using h
  exact hm

/-- A testcase that is held and not malformed is that of the last `!` line. -/
theorem exists_command_of_pending? {ls : List α} (hd : d.started = false)
    (h : (d.after (ls.map reads)).pending? = some tc) (hm : tc.malformed = false) :
    ∃ before l body text, ls = before ++ l :: body ∧ reads l = .command text ∧
      (∀ l ∈ body, (reads l).isCommand = false) ∧ tc.line = d.line + before.length + 1 ∧
      tc.command = .ofList (Text.trim text.toList) := by
  induction ls using List.reverseRecOn generalizing tc with
  | nil => exact absurd (malformed_of_pending? hd h) (Bool.eq_false_iff.1 hm)
  | append_singleton ls l ih =>
    rw [List.map_append, after_append, List.map_singleton, after_cons, after_nil] at h
    cases hl : (reads l).isCommand with
    | true =>
      obtain ⟨text, htext⟩ := Directive.exists_of_isCommand hl
      rw [htext, take_command, line_after, List.length_map] at h
      obtain rfl := Option.some.inj h
      exact ⟨ls, l, [], text, rfl, htext, by simp, rfl, rfl⟩
    | false =>
      -- The draft was started before `l`, or else it would hold an orphan.
      have hstarted : (d.after (ls.map reads)).started = true := by
        by_contra hunstarted
        have hlast : ((d.after (ls.map reads)).take (reads l)).2.started = false := by
          rw [started_take, hl, Bool.or_false]
          exact Bool.eq_false_iff.2 hunstarted
        exact absurd (malformed_of_pending? hlast h) (Bool.eq_false_iff.1 hm)
      have hlast : ((d.after (ls.map reads)).take (reads l)).2.started = true := by
        rw [started_take, hstarted, Bool.true_or]
      rw [pending?_of_started hlast, take_of_started hstarted hl] at h
      obtain rfl := Option.some.inj h
      obtain ⟨before, l', body, text, rfl, htext, hbody, hline, hcommand⟩ :=
        ih (pending?_of_started hstarted) (Bool.or_eq_false_iff.1 hm).1
      refine ⟨before, l', body ++ [l], text, by simp, htext, ?_, ?_, ?_⟩
      · simpa [or_imp, forall_and, hl] using hbody
      · rw [← hline]
        cases reads l <;> rfl
      · rw [← hcommand]
        cases reads l <;> rfl

end Draft

/-- **When a testcase is closed.** The lines before its closing line close the testcases before it
and leave it pending. It is the testcase of the `!` line that it names. -/
theorem exists_closing {ls : List α} {earlier later : List Testcase} {tc : Testcase}
    (h : testcases reads ls = earlier ++ tc :: later) (hm : tc.malformed = false) :
    let before := ls.take (closingLine reads ls tc.line - 1)
    let rest := ls.drop (closingLine reads ls tc.line - 1)
    Draft.empty.closes (before.map reads) = earlier ∧
      (Draft.empty.after (before.map reads)).pending? = some tc ∧
      (∀ l ∈ rest.head?, (reads l).isCommand = true) ∧
      ∃ l text, tc.line ≠ 0 ∧ ls[tc.line - 1]? = some l ∧ reads l = .command text ∧
        tc.command = .ofList (Text.trim text.toList) := by
  rw [← Draft.due_empty] at h
  obtain ⟨taken, rest, rfl, hrest, hcloses, hheld⟩ := Draft.exists_split_of_due h
  obtain ⟨before, l, body, text, rfl, htext, hbody, hline, hcommand⟩ :=
    Draft.exists_command_of_pending? rfl hheld hm
  have hnumber : tc.line = before.length + 1 :=
    hline.trans (congrArg (· + 1) (Nat.zero_add before.length))
  have hlength : (before ++ [l]).length = tc.line := by
    rw [hnumber, List.length_append, List.length_singleton]
  have hclosing : closingLine reads (before ++ l :: body ++ rest) tc.line - 1 =
      (before ++ l :: body).length := by
    rw [List.append_cons before l body]
    exact congrArg (· - 1) (closingLine_eq hlength hbody hrest)
  rw [hclosing, List.take_left, List.drop_left]
  refine ⟨hcloses, hheld, hrest, l, text, ?_, ?_, htext, hcommand⟩
  · rw [hnumber]
    exact Nat.succ_ne_zero _
  · rw [hnumber, Nat.add_sub_cancel, List.append_assoc, List.cons_append,
      List.getElem?_append_right (Nat.le_refl _), Nat.sub_self, List.getElem?_cons_zero]

end CommandSpec
