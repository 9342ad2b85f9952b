import CommandSpec.Proofs.Spec.Segment

/-!
# What a draft answers

A draft is fed directives one by one: it gives an answer to each (`Draft.answers`) and ends in a
state (`Draft.after`). The answer to the directive at position `i` is the answer of the state after
the first `i` directives.

**Theorem (`Draft.segmentation`).** The testcases that a draft closes, and the one it still holds at
the end, are the testcases of the spec: the orphan of the opening and one testcase for each `!`
line. A directive is rejected exactly if it is faulty, or if it is not blank and no `!` line has
come yet; the error names its line, and of the testcase that the draft holds only the mark is
changed.
-/

namespace CommandSpec

/-- The testcase that was closed. -/
def Taken.closed? : Taken → Option Testcase
  | closed tc => some tc
  | _ => none

namespace Draft

/-- The draft after some directives. -/
def after (d : Draft) : List Directive → Draft
  | [] => d
  | x :: xs => (d.take x).2.after xs

/-- The answers to some directives. -/
def answers (d : Draft) : List Directive → List Taken
  | [] => []
  | x :: xs => (d.take x).1 :: (d.take x).2.answers xs

/-- The testcases that some directives close. -/
def closes (d : Draft) (xs : List Directive) : List Testcase :=
  (d.answers xs).filterMap Taken.closed?

variable {d : Draft} {x : Directive}

@[simp] theorem after_nil (d : Draft) : d.after [] = d := rfl

@[simp] theorem after_cons (d : Draft) (x : Directive) (xs : List Directive) :
    d.after (x :: xs) = (d.take x).2.after xs := rfl

theorem after_append (d : Draft) (xs ys : List Directive) :
    d.after (xs ++ ys) = (d.after xs).after ys := by
  induction xs generalizing d with
  | nil => rfl
  | cons x xs ih => exact ih _

@[simp] theorem line_after (d : Draft) (xs : List Directive) :
    (d.after xs).line = d.line + xs.length := by
  induction xs generalizing d with
  | nil => rfl
  | cons x xs ih => rw [after_cons, ih, line_take, List.length_cons]; omega

@[simp] theorem started_after (d : Draft) (xs : List Directive) :
    (d.after xs).started = (d.started || xs.any Directive.isCommand) := by
  induction xs generalizing d with
  | nil => simp
  | cons x xs ih => rw [after_cons, ih, started_take, List.any_cons, Bool.or_assoc]

@[simp] theorem length_answers (d : Draft) (xs : List Directive) :
    (d.answers xs).length = xs.length := by
  induction xs generalizing d with
  | nil => rfl
  | cons x xs ih => simp [answers, ih]

/-- The answer at a position is that of the state after the directives before it. -/
theorem getElem?_answers (d : Draft) (xs : List Directive) (i : Nat) :
    (d.answers xs)[i]? = xs[i]?.map fun x => ((d.after (xs.take i)).take x).1 := by
  induction xs generalizing d i with
  | nil => simp [answers]
  | cons x xs ih =>
    cases i with
    | zero => simp [answers]
    | succ i => simp [answers, ih]

theorem after_take_succ (d : Draft) {xs : List Directive} {i : Nat} (h : xs[i]? = some x) :
    d.after (xs.take (i + 1)) = ((d.after (xs.take i)).take x).2 := by
  rw [List.take_add_one, h, after_append]
  rfl

/-! ## Closed testcases -/

theorem closed?_take (hx : x.isCommand = false) (d : Draft) : (d.take x).1.closed? = none := by
  cases hr : x.rejection? d.started with
  | some r => rw [take_of_rejected hr]; rfl
  | none => rw [take_of_accepted hx hr]; rfl

theorem answers_append (d : Draft) (xs ys : List Directive) :
    d.answers (xs ++ ys) = d.answers xs ++ (d.after xs).answers ys := by
  induction xs generalizing d with
  | nil => rfl
  | cons x xs ih => simp [answers, ih]

theorem closes_cons (d : Draft) (x : Directive) (xs : List Directive) :
    d.closes (x :: xs) = (d.take x).1.closed?.toList ++ (d.take x).2.closes xs := by
  cases h : (d.take x).1.closed? <;> simp [closes, answers, h]

theorem closes_cons_command {text : String} (h : x = .command text) (d : Draft)
    (xs : List Directive) :
    d.closes (x :: xs) =
      d.pending?.toList ++ (⟨.start text (d.line + 1), true, d.line + 1⟩ : Draft).closes xs := by
  rw [h, closes_cons, take_command]
  cases d.pending? <;> rfl

theorem closes_cons_other (h : x.isCommand = false) (d : Draft) (xs : List Directive) :
    d.closes (x :: xs) = (d.take x).2.closes xs := by
  rw [closes_cons, closed?_take h]
  rfl

theorem closes_append (d : Draft) (xs ys : List Directive) :
    d.closes (xs ++ ys) = d.closes xs ++ (d.after xs).closes ys := by
  rw [closes, answers_append, List.filterMap_append]
  rfl

/-- The testcases that are closed, and the one still held, are those that were due. -/
theorem closes_append_pending? {α : Type} (reads : α → Directive) (d : Draft) (ls : List α) :
    d.closes (ls.map reads) ++ (d.after (ls.map reads)).pending?.toList = d.due reads ls := by
  induction ls using command_induction reads generalizing d with
  | nil => simp [closes, answers, due_nil]
  | command l ls text htext ih =>
    rw [List.map_cons, closes_cons_command htext, after_cons, htext, take_command,
      List.append_assoc, ih, due_cons_command htext]
  | other l ls hl ih =>
    rw [List.map_cons, closes_cons_other hl, after_cons, ih, due_cons hl]

/-! ## Rejections -/

theorem take_eq_rejected {e : RunError} :
    (d.take x).1 = .rejected e ↔
      ∃ r, x.rejection? d.started = some r ∧ e = r.error (d.line + 1) := by
  cases hr : x.rejection? d.started with
  | some r => simp [take_of_rejected hr, eq_comm]
  | none =>
    simp only [take, hr, reduceCtorEq, false_and, exists_false, iff_false]
    cases x with
    | command text => cases d.pending? <;> simp
    | _ => simp

/-- A draft that holds nothing is as new, but for the lines it counted. -/
def Untouched (d : Draft) : Prop :=
  d.pending? = none → d.current = { command := "", line := 0 }

theorem Untouched.take (h : d.Untouched) (x : Directive) : (d.take x).2.Untouched := by
  intro hp
  obtain ⟨hs, hm⟩ : (d.take x).2.started = false ∧ (d.take x).2.current.malformed = false := by
    simpa [pending?] using hp
  obtain ⟨hd, hx⟩ : d.started = false ∧ x.isCommand = false := by simpa using hs
  by_cases hb : x = .blank
  · subst hb
    rw [take_blank] at hm
    exact h (by simpa [pending?, hd] using hm)
  · rw [take_of_unstarted hd hx hb] at hm
    simp [spoiled] at hm

theorem Untouched.after (h : d.Untouched) (xs : List Directive) : (d.after xs).Untouched := by
  induction xs generalizing d with
  | nil => exact h
  | cons x xs ih => exact ih (h.take x)

/-- A rejected line marks the testcase that the draft holds, or starts the orphan. -/
theorem pending?_take_of_rejected {r : Rejection} (hd : d.Untouched)
    (h : x.rejection? d.started = some r) :
    (d.take x).2.pending? =
      some ((d.pending?.map fun tc => { tc with malformed := true }).getD
        { command := "", malformed := true, line := d.line + 1 }) := by
  rw [take_of_rejected h]
  cases hp : d.started || d.current.malformed with
  | true => simp [pending?, spoiled, hp]
  | false =>
    have hcurrent := hd (by simp [pending?, hp])
    have hstarted : d.started = false := by simp_all
    simp [pending?, spoiled, hstarted, hcurrent]

/-! ## The segmentation -/

/-- **A draft computes the segmentation of its directives.** The testcases that it closes, and the
one it holds at the end, are the testcases of the spec. The directive at position `i` is rejected
exactly if it is faulty or, neither blank nor a command, has no command before it; then the error
names line `i + 1`, and the testcase that the draft holds is the one before, marked malformed. -/
theorem segmentation (xs : List Directive) :
    (Draft.empty.answers xs).filterMap Taken.closed? ++ (Draft.empty.after xs).pending?.toList =
        testcases id xs ∧
      (Draft.empty.answers xs).length = xs.length ∧
      ∀ (i : Nat) (hi : i < xs.length),
        ((∃ e, (Draft.empty.answers xs)[i]? = some (.rejected e)) ↔
          xs[i].isFaulty = true ∨
            xs[i] ≠ .blank ∧ ∀ y ∈ xs.take (i + 1), y.isCommand = false) ∧
        ∀ e, (Draft.empty.answers xs)[i]? = some (.rejected e) →
          e.kind = .malformed ∧ e.line = some (i + 1) ∧
          (Draft.empty.after (xs.take (i + 1))).pending? =
            some (((Draft.empty.after (xs.take i)).pending?.map
              fun tc => { tc with malformed := true }).getD
                { command := "", malformed := true, line := i + 1 }) := by
  refine ⟨?_, length_answers _ _, fun i hi => ?_⟩
  · rw [← due_empty, ← closes_append_pending?, List.map_id]
    rfl
  · have hx : xs[i]? = some xs[i] := List.getElem?_eq_getElem hi
    have hlen : (xs.take i).length = i := by simp; omega
    have hanswer : ∀ e, (Draft.empty.answers xs)[i]? = some (.rejected e) ↔
        ∃ r, xs[i].rejection? (Draft.empty.after (xs.take i)).started = some r ∧
          e = r.error (i + 1) := fun e => by
      rw [getElem?_answers, hx, Option.map_some, Option.some.injEq, take_eq_rejected, line_after,
        hlen]
      simp [Draft.empty]
    refine ⟨?_, fun e he => ?_⟩
    · have hsome : (∃ e, (Draft.empty.answers xs)[i]? = some (.rejected e)) ↔
          (xs[i].rejection? (Draft.empty.after (xs.take i)).started).isSome = true := by
        simp only [hanswer, Option.isSome_iff_exists]
        exact ⟨fun ⟨_, r, hr, _⟩ => ⟨r, hr⟩, fun ⟨r, hr⟩ => ⟨_, r, hr, rfl⟩⟩
      have hbefore : (∀ y ∈ xs.take (i + 1), y.isCommand = false) ↔
          (∀ y ∈ xs.take i, y.isCommand = false) ∧ xs[i].isCommand = false := by
        rw [List.take_add_one, hx]
        simp only [Option.toList_some, List.mem_append, List.mem_singleton, or_imp, forall_and,
          forall_eq]
      rw [hsome, Directive.isSome_rejection?, started_after, hbefore]
      simp [Draft.empty, and_comm, and_assoc]
    · obtain ⟨r, hr, rfl⟩ := (hanswer e).1 he
      have huntouched : (Draft.empty.after (xs.take i)).Untouched := .after (fun _ => rfl) _
      rw [after_take_succ _ hx, pending?_take_of_rejected huntouched hr, line_after, hlen]
      simp [Rejection.error, Draft.empty]

/-- An orphan, and then a testcase that is spoiled by its third line. -/
theorem segmentation_spoiled :
    2 < [Directive.output "a", .command " b ", .unknown "x", .status 3].length ∧
    testcases id [Directive.output "a", .command " b ", .unknown "x", .status 3] =
      [{ command := "", malformed := true, line := 1 },
        { command := "b", exitStatus := 3, malformed := true, line := 2 }] ∧
    ∃ e, (Draft.empty.answers [.output "a", .command " b ", .unknown "x", .status 3])[2]? =
        some (.rejected e) ∧ e.line = some 3 := by
  obtain ⟨-, -, hrejected⟩ :=
    segmentation [.output "a", .command " b ", .unknown "x", .status 3]
  obtain ⟨hiff, herror⟩ := hrejected 2 (by decide)
  obtain ⟨e, he⟩ := hiff.2 (.inl rfl)
  exact ⟨by decide, by decide +kernel, e, he, (herror e he).2.1⟩

end Draft

end CommandSpec
