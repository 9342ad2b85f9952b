import CommandSpec.Proofs.Spec.Segmentation

/-!
# A spec after another one

A spec *opens blank* if its first line that is not blank, if there is one, is a `!` line. Such a
spec may follow any other: what is pending of the other one is closed by the `!` line, as it would
have been closed by the end of the spec.

**Theorem (`testcases_append`).** The testcases of two specs, the second of which opens blank, are
the testcases of the first and then those of the second, numbered on.

**Theorem (`rejections_append_of_opensBlank`).** So are the errors of the lines that are rejected.

A draft that has taken some lines and the empty one differ in what they hold, until the first `!`
line replaces it, and in how many lines they count, which only numbers what comes of them
(`due_later`, `rejections_later`).
-/

namespace CommandSpec

/-- The error, `k` lines further down. -/
def RunError.later (k : Nat) (e : RunError) : RunError :=
  { e with line := e.line.map (· + k) }

/-- The testcase, `k` lines further down. -/
def Testcase.later (k : Nat) (tc : Testcase) : Testcase :=
  { tc with line := tc.line + k }

/-- Before the first `!` line, all lines are blank. -/
def OpensBlank {α : Type} (reads : α → Directive) (ls : List α) : Prop :=
  ∀ l ∈ opening reads ls, reads l = .blank

section

variable {α : Type} {reads : α → Directive} {l : α} {ls : List α}

theorem opensBlank_nil (reads : α → Directive) : OpensBlank reads [] := by
  simp [OpensBlank]

theorem opensBlank_cons_command (h : (reads l).isCommand = true) (ls : List α) :
    OpensBlank reads (l :: ls) := by
  obtain ⟨text, htext⟩ := Directive.exists_of_isCommand h
  simp [OpensBlank, opening_cons_command htext]

/-- A line that is no command is the first of those before the first command. -/
theorem opensBlank_cons (reads : α → Directive) (h : (reads l).isCommand = false) :
    OpensBlank reads (l :: ls) ↔ reads l = .blank ∧ OpensBlank reads ls := by
  rw [OpensBlank, opening_cons h, List.forall_mem_cons]
  rfl

theorem opensBlank_map (reads : α → Directive) (ls : List α) :
    OpensBlank id (ls.map reads) ↔ OpensBlank reads ls := by
  induction ls using command_induction reads with
  | nil => simp [OpensBlank]
  | command l ls text htext ih =>
    have hl : (reads l).isCommand = true := htext ▸ rfl
    simp [opensBlank_cons_command, hl]
  | other l ls hl ih =>
    rw [List.map_cons, opensBlank_cons id hl, opensBlank_cons reads hl, ih]
    rfl

/-- The first line that is not blank, if there is one, is a `!` line. -/
theorem opensBlank_iff_find? (reads : α → Directive) (ls : List α) :
    OpensBlank reads ls ↔
      ∀ l, ls.find? (fun l => reads l != .blank) = some l → (reads l).isCommand = true := by
  induction ls using command_induction reads with
  | nil => simp [opensBlank_nil]
  | command l ls text htext ih =>
    have hl : (reads l).isCommand = true := htext ▸ rfl
    simp [opensBlank_cons_command hl, htext, Directive.isCommand]
  | other l ls hl ih =>
    by_cases hb : reads l = .blank
    · simp [opensBlank_cons reads hl, hb, ih]
    · simp [opensBlank_cons reads hl, hb, hl]

end

/-! ## Rejections -/

/-- The error of a line that was rejected. -/
def Taken.rejected? : Taken → Option RunError
  | rejected e => some e
  | _ => none

namespace Draft

/-- The errors of the lines that a draft rejects. -/
def rejections (d : Draft) (xs : List Directive) : List RunError :=
  (d.answers xs).filterMap Taken.rejected?

variable {d d' : Draft} {x : Directive} {xs : List Directive} {k : Nat}

theorem rejected?_take (d : Draft) (x : Directive) :
    (d.take x).1.rejected? = (x.rejection? d.started).map fun r => r.error (d.line + 1) := by
  cases hr : x.rejection? d.started with
  | some r => rw [take_of_rejected hr]; rfl
  | none =>
    cases hx : (d.take x).1 with
    | rejected e =>
      obtain ⟨r, hr', -⟩ := take_eq_rejected.1 hx
      rw [hr] at hr'
      cases hr'
    | inside | closed tc => rfl

theorem rejections_cons (d : Draft) (x : Directive) (xs : List Directive) :
    d.rejections (x :: xs) = (d.take x).1.rejected?.toList ++ (d.take x).2.rejections xs := by
  cases h : (d.take x).1.rejected? <;> simp [rejections, answers, h]

theorem rejections_append (d : Draft) (xs ys : List Directive) :
    d.rejections (xs ++ ys) = d.rejections xs ++ (d.after xs).rejections ys := by
  rw [rejections, answers_append, List.filterMap_append]
  rfl

/-- Whether a line is rejected is decided by the line and by whether a `!` line came before it. -/
theorem rejections_eq_filterMap (d : Draft) (xs : List Directive) :
    d.rejections xs = xs.zipIdx.filterMap fun p =>
      (p.1.rejection? (d.started || (xs.take p.2).any Directive.isCommand)).map fun r =>
        r.error (d.line + p.2 + 1) := by
  have hanswers : (d.answers xs).map Taken.rejected? = xs.zipIdx.map fun p =>
      (p.1.rejection? (d.started || (xs.take p.2).any Directive.isCommand)).map fun r =>
        r.error (d.line + p.2 + 1) := by
    refine List.ext_getElem? fun i => ?_
    rw [List.getElem?_map, getElem?_answers, List.getElem?_map, List.getElem?_zipIdx]
    cases hx : xs[i]? with
    | none => rfl
    | some x =>
      have hlength : (xs.take i).length = i :=
        List.length_take_of_le (Nat.le_of_lt (List.getElem?_eq_some_iff.1 hx).1)
      simp [rejected?_take, hlength]
  calc d.rejections xs
    _ = ((d.answers xs).map Taken.rejected?).filterMap id := by
      rw [List.filterMap_map, Function.id_comp, rejections]
    _ = _ := by rw [hanswers, List.filterMap_map, Function.id_comp]

/-- Where a `!` line has come or comes before anything else, only faulty lines are rejected. -/
theorem rejections_eq_nil (hopen : d.started = true ∨ OpensBlank id xs)
    (hfaulty : ∀ x ∈ xs, x.isFaulty = false) : d.rejections xs = [] := by
  induction xs generalizing d with
  | nil => rfl
  | cons x xs ih =>
    rw [List.forall_mem_cons] at hfaulty
    have hfirst : x.rejection? d.started = none := by
      rw [← Option.not_isSome_iff_eq_none, Directive.isSome_rejection?, hfaulty.1]
      rcases hopen with hd | hopen
      · simp [hd]
      · by_cases hx : x.isCommand = true
        · simp [hx]
        · have hblank := ((opensBlank_cons id (by simpa using hx)).1 hopen).1
          simp [show x = .blank from hblank]
    have hrest : (d.take x).2.started = true ∨ OpensBlank id xs := by
      rw [started_take, Bool.or_eq_true]
      by_cases hx : x.isCommand = true
      · exact .inl (.inr hx)
      · exact hopen.imp .inl fun h => ((opensBlank_cons id (by simpa using hx)).1 h).2
    rw [rejections_cons, rejected?_take, hfirst, ih hrest hfaulty.2]
    rfl

/-- What was taken before a spec only numbers the errors of its lines, unless it decides whether a
`!` line has come. -/
theorem rejections_later (hline : d'.line = d.line + k)
    (hopen : d'.started = d.started ∨ OpensBlank id xs) :
    d'.rejections xs = (d.rejections xs).map (.later k) := by
  induction xs generalizing d d' with
  | nil => rfl
  | cons x xs ih =>
    have hnext : (d'.take x).2.line = (d.take x).2.line + k := by
      rw [line_take, line_take, hline]
      omega
    have herror (r : Rejection) : r.error (d'.line + 1) = (r.error (d.line + 1)).later k := by
      simp [Rejection.error, RunError.later, hline]
      omega
    -- Up to the first `!` line all lines are blank, and after it both drafts are started.
    have hsame : x.rejection? d'.started = x.rejection? d.started ∧
        ((d'.take x).2.started = (d.take x).2.started ∨ OpensBlank id xs) := by
      rw [started_take, started_take]
      rcases hopen with hd | hopen
      · rw [hd]
        exact ⟨rfl, .inl rfl⟩
      · by_cases hx : x.isCommand = true
        · obtain ⟨text, rfl⟩ := Directive.exists_of_isCommand hx
          exact ⟨rfl, .inl (by simp [Directive.isCommand])⟩
        · obtain ⟨hblank, hopen⟩ := (opensBlank_cons id (by simpa using hx)).1 hopen
          rw [show x = .blank from hblank]
          exact ⟨rfl, .inr hopen⟩
    rw [rejections_cons, rejections_cons, rejected?_take, rejected?_take, hsame.1,
      ih hnext hsame.2]
    cases x.rejection? d.started with
    | none => rfl
    | some r => simp [herror]

/-- **The rejections of two specs.** -/
theorem rejections_append_of_opensBlank (xs : List Directive) {ys : List Directive}
    (h : OpensBlank id ys) :
    Draft.empty.rejections (xs ++ ys) =
      Draft.empty.rejections xs ++ (Draft.empty.rejections ys).map (.later xs.length) := by
  rw [rejections_append, rejections_later (d := .empty) (line_after _ _) (.inr h)]

/-! ## Testcases -/

/-- The draft, `k` lines further down. -/
def later (k : Nat) (d : Draft) : Draft :=
  { d with current := d.current.later k, line := d.line + k }

theorem pending?_later (k : Nat) (d : Draft) :
    (d.later k).pending? = d.pending?.map (.later k) := by
  cases h : d.started || d.current.malformed <;> simp [pending?, later, Testcase.later, h]

theorem later_start (text : String) (n k : Nat) :
    (⟨.start text (n + 1), true, n + 1⟩ : Draft).later k =
      ⟨.start text (n + k + 1), true, n + k + 1⟩ := by
  simp [later, Testcase.later, Testcase.start, Nat.add_right_comm]

theorem take_later (hx : x.isCommand = false) (k : Nat) (d : Draft) :
    ((d.later k).take x).2 = (d.take x).2.later k := by
  cases hr : x.rejection? d.started with
  | some r =>
    have hr' : x.rejection? (d.later k).started = some r := hr
    rw [take_of_rejected hr, take_of_rejected hr']
    cases h : d.started || d.current.malformed <;>
      simp [later, spoiled, Testcase.later, Nat.add_right_comm, h]
  | none =>
    have hr' : x.rejection? (d.later k).started = none := hr
    rw [take_of_accepted hx hr, take_of_accepted hx hr']
    cases x <;> simp [later, Testcase.later, Testcase.add, Nat.add_right_comm]

variable {α : Type} {reads : α → Directive}

/-- A draft that counts more lines closes the same testcases, further down. -/
theorem due_later (k : Nat) (d : Draft) (ls : List α) :
    (d.later k).due reads ls = (d.due reads ls).map (.later k) := by
  induction ls using command_induction reads generalizing d with
  | nil =>
    rw [due_nil, due_nil, pending?_later]
    cases d.pending? <;> rfl
  | command l ls text htext ih =>
    rw [due_cons_command htext, due_cons_command htext, pending?_later, List.map_append, ← ih,
      later_start]
    cases d.pending? <;> rfl
  | other l ls hl ih => rw [due_cons hl, due_cons hl, take_later hl, ih]

/-- A spec that opens blank closes what a draft holds, and then its own testcases. -/
theorem due_of_opensBlank {ls : List α} (h : OpensBlank reads ls) {n : Nat}
    (hline : d.line = n + k) :
    d.due reads ls =
      d.pending?.toList ++ (({ line := n } : Draft).due reads ls).map (.later k) := by
  induction ls using command_induction reads generalizing d n with
  | nil => simp [due_nil, pending?]
  | command l ls text htext ih =>
    rw [due_cons_command htext, due_cons_command htext, List.map_append, ← due_later,
      later_start, hline]
    rfl
  | other l ls hl ih =>
    obtain ⟨hblank, h⟩ := (opensBlank_cons reads hl).1 h
    rw [due_cons hl, due_cons hl, hblank, take_blank, take_blank]
    have hnext : d.line + 1 = n + 1 + k := by omega
    exact ih (d := { d with line := d.line + 1 }) h hnext

end Draft

/-- Testcases are made of what the lines say. -/
theorem testcases_map {α β : Type} (reads : β → Directive) (f : α → β) (ls : List α) :
    testcases reads (ls.map f) = testcases (reads ∘ f) ls := by
  rw [← Draft.due_empty, ← Draft.due_empty, ← Draft.closes_append_pending?,
    ← Draft.closes_append_pending?, List.map_map]

/-- **The testcases of two specs.** -/
theorem testcases_append {α : Type} {reads : α → Directive} (ls : List α) {ms : List α}
    (h : OpensBlank reads ms) :
    testcases reads (ls ++ ms) =
      testcases reads ls ++ (testcases reads ms).map (.later ls.length) := by
  have hline : (Draft.empty.after (ls.map reads)).line = 0 + ls.length := by
    rw [Draft.line_after, List.length_map]
    rfl
  have hms : testcases reads ms = ({ line := 0 } : Draft).due reads ms := (Draft.due_empty ms).symm
  rw [← Draft.due_empty, ← Draft.closes_append_pending?, List.map_append, Draft.closes_append,
    Draft.after_append, List.append_assoc, Draft.closes_append_pending?,
    Draft.due_of_opensBlank h hline, ← List.append_assoc, Draft.closes_append_pending?,
    Draft.due_empty, hms]

end CommandSpec
