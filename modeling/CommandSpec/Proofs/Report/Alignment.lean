import CommandSpec.Proofs.Report.Rows

/-!
# What a difference sets side by side

A difference passes over hidden lines and sets the lines that are left, the *kept* ones, beside the
expected lines by position: the `k`-th kept line *faces* the `k`-th expected line, or none
(`Row.facing`). Expected lines that no kept line faces are missing.

**Theorem (`diff_aligned`).** The rows of a difference are those of the hidden lines, those of the
kept lines with what they face, and then those of the missing lines; and a check finds a mismatch
exactly if one of its rows tells of a difference.

Two equations say what one printed line adds to the rows, whether an expected line is left or not:
a hidden line takes none (`diffFrom_hidden`), a kept line takes the next (`diffFrom_kept`). Each
part of the theorem is an induction on the printed lines by these two.
-/

namespace CommandSpec

/-! ## Kinds of rows -/

namespace Row

/-- The line of a debug row with its number. -/
def debug? : Row → Option (String × Nat)
  | debug n text => some (text, n)
  | _ => none

/-- The line of a row about a missing line. -/
def missing? : Row → Option String
  | missing text => some text
  | _ => none

/-- The row is about a printed line that faces none. -/
def isExtra : Row → Bool
  | extra .. => true
  | _ => false

/-- The row tells of a difference. -/
def differs : Row → Bool
  | actual .. | extra .. | missing _ => true
  | same .. | expected _ | debug .. => false

/-- The rows of a kept line, given with its number, that faces an expected line or none. -/
def facing (line : String × Nat) : Option String → List Row
  | some e => if line.1 = e then [same line.2 line.1] else [actual line.2 line.1, expected e]
  | none => [extra line.2 line.1]

theorem filterMap_debug?_facing (line : String × Nat) (e? : Option String) :
    (facing line e?).filterMap debug? = [] := by
  cases e? with
  | none => rfl
  | some e => by_cases h : line.1 = e <;> simp [facing, h, debug?]

theorem filter_debug?_facing (line : String × Nat) (e? : Option String) :
    (facing line e?).filter (fun row => row.debug?.isNone) = facing line e? := by
  cases e? with
  | none => rfl
  | some e => by_cases h : line.1 = e <;> simp [facing, h, debug?]

theorem missing?_of_mem_facing {line : String × Nat} {e? : Option String} {row : Row}
    (h : row ∈ facing line e?) : row.missing? = none := by
  cases e? with
  | none => simp_all [facing, missing?]
  | some e =>
    by_cases heq : line.1 = e
    · simp_all [facing, missing?]
    · rcases (by simpa [facing, heq] using h : row = _ ∨ row = _) with rfl | rfl <;> rfl

theorem any_differs_facing (line : String × Nat) (e? : Option String) :
    (facing line e?).any differs = true ↔ e? ≠ some line.1 := by
  cases e? with
  | none => simp [facing, differs]
  | some e =>
    by_cases h : line.1 = e
    · simp [facing, h, differs]
    · simp [facing, h, differs, Ne.symm h]

theorem any_isExtra_facing (line : String × Nat) (e? : Option String) :
    (facing line e?).any isExtra = e?.isNone := by
  cases e? with
  | none => rfl
  | some e => by_cases h : line.1 = e <;> simp [facing, h, isExtra]

end Row

/-! ## Kept lines -/

/-- The kept lines with their numbers, if the first printed line has the number `n`. -/
def keptFrom (filter : Bool) (n : Nat) (actual : List String) : List (String × Nat) :=
  (actual.zipIdx n).filter fun line => !isHidden filter line.1

/-- The hidden lines with their numbers, if the first printed line has the number `n`. -/
def hiddenFrom (filter : Bool) (n : Nat) (actual : List String) : List (String × Nat) :=
  (actual.zipIdx n).filter fun line => isHidden filter line.1

section

variable {filter : Bool} {n : Nat} {a : String} {as expected : List String}

theorem keptFrom_hidden (h : isHidden filter a = true) :
    keptFrom filter n (a :: as) = keptFrom filter (n + 1) as := by
  simp [keptFrom, List.zipIdx_cons, h]

theorem keptFrom_kept (h : isHidden filter a = false) :
    keptFrom filter n (a :: as) = (a, n) :: keptFrom filter (n + 1) as := by
  simp [keptFrom, List.zipIdx_cons, h]

theorem hiddenFrom_hidden (h : isHidden filter a = true) :
    hiddenFrom filter n (a :: as) = (a, n) :: hiddenFrom filter (n + 1) as := by
  simp [hiddenFrom, List.zipIdx_cons, h]

theorem hiddenFrom_kept (h : isHidden filter a = false) :
    hiddenFrom filter n (a :: as) = hiddenFrom filter (n + 1) as := by
  simp [hiddenFrom, List.zipIdx_cons, h]

theorem shown_hidden (h : isHidden filter a = true) : shown filter (a :: as) = shown filter as := by
  simp [shown, h]

theorem shown_kept (h : isHidden filter a = false) :
    shown filter (a :: as) = a :: shown filter as := by
  simp [shown, h]

/-- The kept lines are those that take part in the comparison. -/
theorem map_fst_keptFrom (filter : Bool) (n : Nat) (actual : List String) :
    (keptFrom filter n actual).map Prod.fst = shown filter actual := by
  induction actual generalizing n with
  | nil => rfl
  | cons a as ih =>
    cases h : isHidden filter a with
    | true => rw [keptFrom_hidden h, shown_hidden h, ih]
    | false => rw [keptFrom_kept h, shown_kept h, List.map_cons, ih]

/-! ## The rows of a difference -/

/-- A hidden line takes no expected line. -/
theorem diffFrom_hidden (h : isHidden filter a = true) :
    diffFrom filter n (a :: as) expected = .debug n a :: diffFrom filter (n + 1) as expected := by
  cases expected <;> simp [diffFrom, h]

/-- A kept line takes the next expected line, if one is left. -/
theorem diffFrom_kept (h : isHidden filter a = false) :
    diffFrom filter n (a :: as) expected =
      Row.facing (a, n) expected.head? ++ diffFrom filter (n + 1) as expected.tail := by
  cases expected with
  | nil => simp [diffFrom, h, Row.facing]
  | cons e es =>
    rw [diffFrom, h]
    by_cases heq : a = e <;> simp [Row.facing, heq]

theorem diffFrom_nil (filter : Bool) (n : Nat) (expected : List String) :
    diffFrom filter n [] expected = expected.map .missing := by
  cases expected <;> rfl

/-- The debug rows are those of the hidden lines. -/
theorem filterMap_debug?_diffFrom (filter : Bool) (n : Nat) (actual expected : List String) :
    (diffFrom filter n actual expected).filterMap Row.debug? = hiddenFrom filter n actual := by
  induction actual generalizing n expected with
  | nil =>
    rw [diffFrom_nil, List.filterMap_map]
    exact List.filterMap_eq_nil_iff.2 fun _ _ => rfl
  | cons a as ih =>
    cases h : isHidden filter a with
    | true =>
      rw [diffFrom_hidden h, hiddenFrom_hidden h, List.filterMap_cons, ih]
      rfl
    | false =>
      rw [diffFrom_kept h, hiddenFrom_kept h, List.filterMap_append, Row.filterMap_debug?_facing,
        List.nil_append, ih]

/-- The other rows are those of the kept lines in order, and then those of the missing lines. -/
theorem filter_diffFrom (filter : Bool) (n : Nat) (actual expected : List String) :
    (diffFrom filter n actual expected).filter (fun row => row.debug?.isNone) =
      ((keptFrom filter n actual).zipIdx.flatMap fun line =>
          Row.facing line.1 expected[line.2]?) ++
        (expected.drop (keptFrom filter n actual).length).map .missing := by
  induction actual generalizing n expected with
  | nil =>
    rw [diffFrom_nil]
    exact List.filter_eq_self.2 fun row hrow => by
      obtain ⟨e, -, rfl⟩ := List.mem_map.1 hrow
      rfl
  | cons a as ih =>
    cases h : isHidden filter a with
    | true =>
      rw [diffFrom_hidden h, keptFrom_hidden h, ← ih]
      rfl
    | false =>
      -- Every kept line after this one faces the line that it faces among the remaining ones.
      have hlater : ∀ lines : List (String × Nat),
          (lines.zipIdx 1).flatMap (fun line => Row.facing line.1 expected[line.2]?) =
            lines.zipIdx.flatMap fun line => Row.facing line.1 expected.tail[line.2]? := by
        intro lines
        rw [List.zipIdx_succ, List.flatMap_map]
        simp only [List.getElem?_tail]
      rw [diffFrom_kept h, keptFrom_kept h, List.filter_append, Row.filter_debug?_facing, ih,
        List.zipIdx_cons, List.flatMap_cons, hlater, List.length_cons, List.append_assoc,
        ← List.head?_eq_getElem?, List.drop_tail]

/-- The rows of a kept line stand together. -/
theorem exists_facing_diffFrom (filter : Bool) (n : Nat) (actual expected : List String) {k : Nat}
    (hk : k < (keptFrom filter n actual).length) :
    ∃ before after, diffFrom filter n actual expected =
      before ++ Row.facing (keptFrom filter n actual)[k] expected[k]? ++ after := by
  induction actual generalizing n expected k with
  | nil => exact absurd hk (Nat.not_lt_zero k)
  | cons a as ih =>
    cases h : isHidden filter a with
    | true =>
      simp only [keptFrom_hidden h] at hk ⊢
      obtain ⟨before, after, heq⟩ := ih (n + 1) expected hk
      exact ⟨.debug n a :: before, after, by rw [diffFrom_hidden h, heq]; rfl⟩
    | false =>
      simp only [keptFrom_kept h] at hk ⊢
      rw [diffFrom_kept h]
      cases k with
      | zero => exact ⟨[], _, by rw [List.head?_eq_getElem?]; rfl⟩
      | succ k =>
        obtain ⟨before, after, heq⟩ := ih (n + 1) expected.tail (Nat.lt_of_succ_lt_succ hk)
        refine ⟨Row.facing (a, n) expected.head? ++ before, after, ?_⟩
        rw [heq, List.getElem?_tail]
        simp

/-- The missing lines come last. -/
theorem exists_missing_diffFrom (filter : Bool) (n : Nat) (actual expected : List String) :
    ∃ before, diffFrom filter n actual expected =
        before ++ (expected.drop (keptFrom filter n actual).length).map .missing ∧
      ∀ row ∈ before, row.missing? = none := by
  induction actual generalizing n expected with
  | nil => exact ⟨[], diffFrom_nil filter n expected, by simp⟩
  | cons a as ih =>
    cases h : isHidden filter a with
    | true =>
      obtain ⟨before, heq, hbefore⟩ := ih (n + 1) expected
      refine ⟨.debug n a :: before, ?_, List.forall_mem_cons.2 ⟨rfl, hbefore⟩⟩
      rw [diffFrom_hidden h, keptFrom_hidden h, heq]
      rfl
    | false =>
      obtain ⟨before, heq, hbefore⟩ := ih (n + 1) expected.tail
      refine ⟨Row.facing (a, n) expected.head? ++ before, ?_, fun row hrow => ?_⟩
      · rw [diffFrom_kept h, keptFrom_kept h, heq, List.length_cons, List.append_assoc,
          List.drop_tail]
      · exact (List.mem_append.1 hrow).elim Row.missing?_of_mem_facing (hbefore row)

/-- Only where a printed line faces none is there an extra row. -/
theorem any_isExtra_diffFrom (filter : Bool) (n : Nat) (actual expected : List String) :
    (diffFrom filter n actual expected).any Row.isExtra = true ↔
      expected.length < (shown filter actual).length := by
  induction actual generalizing n expected with
  | nil => simp [diffFrom_nil, shown, Row.isExtra]
  | cons a as ih =>
    cases h : isHidden filter a with
    | true =>
      rw [diffFrom_hidden h, shown_hidden h, ← ih (n + 1)]
      rfl
    | false =>
      rw [diffFrom_kept h, shown_kept h, List.any_append, Bool.or_eq_true, ih,
        Row.any_isExtra_facing]
      cases expected <;> simp

/-- Only where an expected line is faced by none is there a missing row. -/
theorem any_missing?_diffFrom (filter : Bool) (n : Nat) (actual expected : List String) :
    (diffFrom filter n actual expected).any (fun row => row.missing?.isSome) = true ↔
      (shown filter actual).length < expected.length := by
  induction actual generalizing n expected with
  | nil => cases expected <;> simp [diffFrom_nil, shown, Row.missing?]
  | cons a as ih =>
    have hfacing : (Row.facing (a, n) expected.head?).any (fun row => row.missing?.isSome) =
        false := by
      rw [List.any_eq_false]
      intro row hrow
      simp [Row.missing?_of_mem_facing hrow]
    cases h : isHidden filter a with
    | true =>
      rw [diffFrom_hidden h, shown_hidden h, ← ih (n + 1)]
      rfl
    | false =>
      rw [diffFrom_kept h, shown_kept h, List.any_append, hfacing, Bool.false_or, ih]
      cases expected <;> simp

/-- A row tells of a difference exactly if the lines that take part are not the expected ones. -/
theorem any_differs_diffFrom (filter : Bool) (n : Nat) (actual expected : List String) :
    (diffFrom filter n actual expected).any Row.differs = true ↔
      shown filter actual ≠ expected := by
  induction actual generalizing n expected with
  | nil => cases expected <;> simp [diffFrom_nil, shown, Row.differs]
  | cons a as ih =>
    cases h : isHidden filter a with
    | true =>
      rw [diffFrom_hidden h, shown_hidden h, ← ih (n + 1)]
      rfl
    | false =>
      rw [diffFrom_kept h, shown_kept h, List.any_append, Bool.or_eq_true, ih,
        Row.any_differs_facing]
      cases expected with
      | nil => simp
      | cons e es =>
        by_cases heq : a = e
        · simp [heq]
        · simp [heq, Ne.symm heq]

end

/-! ## The alignment -/

/-- The rows set the kept lines beside the expected lines by position. -/
structure Aligns (filter : Bool) (actual expected : List String) (rows : List Row) : Prop where
  /-- The kept lines are the printed lines that are not hidden. -/
  kept : (keptFrom filter 1 actual).map Prod.fst = shown filter actual
  /-- The debug rows are those of the hidden lines, numbered among all printed lines. -/
  debug : rows.filterMap Row.debug? = hiddenFrom filter 1 actual
  /-- The `k`-th kept line is shown beside the `k`-th expected line, if there is one, and the rows
  of a pair stand together. -/
  facing : ∀ (k : Nat) (hk : k < (keptFrom filter 1 actual).length), ∃ before after,
    rows = before ++ Row.facing (keptFrom filter 1 actual)[k] expected[k]? ++ after
  /-- Besides the debug rows, there are only those of the kept lines in order and of the missing
  lines. -/
  others : rows.filter (fun row => row.debug?.isNone) =
    ((keptFrom filter 1 actual).zipIdx.flatMap fun line => Row.facing line.1 expected[line.2]?) ++
      (expected.drop (keptFrom filter 1 actual).length).map .missing
  /-- The expected lines beyond the kept ones are missing and stand last. -/
  missing : ∃ before,
    rows = before ++ (expected.drop (keptFrom filter 1 actual).length).map .missing ∧
      ∀ row ∈ before, row.missing? = none
  /-- There are never both extra and missing lines. -/
  one_side : ¬ (rows.any Row.isExtra = true ∧ rows.any (fun row => row.missing?.isSome) = true)

theorem aligns_diff (filter : Bool) (actual expected : List String) :
    Aligns filter actual expected (diff filter actual expected) where
  kept := map_fst_keptFrom filter 1 actual
  debug := filterMap_debug?_diffFrom filter 1 actual expected
  facing _ hk := exists_facing_diffFrom filter 1 actual expected hk
  others := filter_diffFrom filter 1 actual expected
  missing := exists_missing_diffFrom filter 1 actual expected
  one_side := by
    rintro ⟨hextra, hmissing⟩
    have hlonger := (any_isExtra_diffFrom filter 1 actual expected).1 hextra
    have hshorter := (any_missing?_diffFrom filter 1 actual expected).1 hmissing
    omega

/-- **A difference aligns both sides and agrees with the verdict.** Its rows set the kept lines
beside the expected lines. The check of the same lines finds a mismatch exactly if one of the rows
tells of a difference; then it writes the rows. -/
theorem diff_aligned (filter : Bool) (actual expected : List String) :
    Aligns filter actual expected (diff filter actual expected) ∧
    ∀ (channel command : String) (t : Tally) (out : String), ∃ verdict r,
      Report.check channel command actual expected filter (⟨t, ⟨out, none⟩⟩ : Report Sink) =
        .ok verdict r ∧
      ((diff filter actual expected).any Row.differs = true ↔ verdict = false) ∧
      (verdict = false → r.out.text = out ++ blockOfLines
        (Report.tagged t.label t.index ("FAIL: " ++ (channel ++ " differs for: " ++ command)) ::
          Report.diffHeader channel :: (diff filter actual expected).map Row.render)) := by
  refine ⟨aligns_diff filter actual expected, fun channel command t out => ?_⟩
  refine ⟨_, _, Report.check_unlimited t out channel command actual expected filter, ?_, ?_⟩
  · rw [diff, any_differs_diffFrom, Report.agrees_eq, decide_eq_false_iff_not]
  · intro hverdict
    simp only [Report.channelRows, hverdict, Bool.false_eq_true, if_false]

/-- A pair that differs stands between debug lines, one of them beyond the expected lines. -/
theorem diff_aligned_debug :
    1 < (keptFrom true 1 ["a", "DEBUG: x", "c", "#tail"]).length ∧
    (∃ before after, diff true ["a", "DEBUG: x", "c", "#tail"] ["a", "b"] =
      before ++ [.actual 3 "c", .expected "b"] ++ after) ∧
    ∃ r, Report.check "stdout" "x" ["a", "DEBUG: x", "c", "#tail"] ["a", "b"] true
        (⟨.start "t" false, ⟨"", none⟩⟩ : Report Sink) = .ok false r ∧
      r.out.text = blockOfLines ["t #1: FAIL: stdout differs for: x", "--- stdout ---", "1  a",
        "2 ~DEBUG: x", "3 =c", "exp :b", "4 ~#tail"] := by
  obtain ⟨haligns, hcheck⟩ := diff_aligned true ["a", "DEBUG: x", "c", "#tail"] ["a", "b"]
  obtain ⟨verdict, r, hrun, hverdict, htext⟩ := hcheck "stdout" "x" (.start "t" false) ""
  obtain rfl : verdict = false := hverdict.1 (by decide)
  exact ⟨by decide, haligns.facing 1 (by decide), r, hrun, htext rfl⟩

end CommandSpec
