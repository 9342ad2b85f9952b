import CommandSpec.Spec.Testcase

/-!
# Segments of a spec

A spec falls apart at its `!` lines. The lines before the first of them are its *opening*, and every
`!` line heads a *segment*, whose body are the lines up to the next one. A segment makes the
testcase `Segment.testcase`. The opening makes a testcase only if one of its lines is not blank: a
malformed *orphan*, numbered by the first such line.

A *stretch* is a run of lines together with the testcase they make. `stretches` cuts a spec into
stretches as just said, and `Draft.stretches` cuts it where a draft closes a testcase.

**Theorem (`stretches_empty`).** The empty draft cuts a spec into exactly its opening and its
segments, each with the testcase it makes.

The proof follows the draft through its three kinds of state, each by induction on the lines: after
a `!` line the draft extends the testcase it holds by the body of the segment it is in; before any
`!` line it either holds nothing yet or holds the orphan.

Lines are of any type `α` that reads as a directive, so that the same segments serve directives and
the lines of a spec.
-/

namespace CommandSpec

/-! ## Kinds of directives -/

namespace Directive

/-- The directive starts a testcase. -/
def isCommand : Directive → Bool
  | command _ => true
  | _ => false

/-- The directive is rejected wherever it stands. -/
def isFaulty : Directive → Bool
  | badStatus _ => true
  | unknown _ => true
  | _ => false

def input? : Directive → Option String
  | input text => some text
  | _ => none

def output? : Directive → Option String
  | output text => some text
  | _ => none

def errorOutput? : Directive → Option String
  | errorOutput text => some text
  | _ => none

def status? : Directive → Option Int
  | status n => some n
  | _ => none

/-- After a `!` line, only faulty directives are rejected; before it, all but blank ones. -/
theorem isSome_rejection? (started : Bool) (x : Directive) :
    (x.rejection? started).isSome = (x.isFaulty || !started && (x != blank && !x.isCommand)) := by
  cases started <;> cases x <;> rfl

@[simp] theorem isFaulty_command (text : String) : (command text).isFaulty = false := rfl

theorem exists_of_isCommand {x : Directive} (h : x.isCommand = true) :
    ∃ text, x = command text := by
  cases x <;> simp_all [isCommand]

end Directive

/-! ## Testcases and the directives after their command -/

namespace Testcase

/-- The testcase after one more directive of its segment. -/
def absorb (tc : Testcase) (x : Directive) : Testcase :=
  { tc.add x with malformed := tc.malformed || x.isFaulty }

/-- The testcase after more directives of its segment. -/
def extend (tc : Testcase) (xs : List Directive) : Testcase :=
  { tc with
    stdin := tc.stdin ++ xs.filterMap Directive.input?
    stdout := tc.stdout ++ xs.filterMap Directive.output?
    stderr := tc.stderr ++ xs.filterMap Directive.errorOutput?
    exitStatus := (xs.filterMap Directive.status?).getLast?.getD tc.exitStatus
    malformed := tc.malformed || xs.any Directive.isFaulty }

@[simp] theorem extend_nil (tc : Testcase) : tc.extend [] = tc := by
  simp [extend]

theorem extend_cons (tc : Testcase) (x : Directive) (xs : List Directive) :
    tc.extend (x :: xs) = (tc.absorb x).extend xs := by
  cases x with
  | status n =>
    -- The last status wins, so `n` only matters where no later one follows.
    cases h : (xs.filterMap Directive.status?).getLast? <;>
      simp [extend, absorb, add, List.filterMap_cons, Directive.input?, Directive.output?,
        Directive.errorOutput?, Directive.status?, Directive.isFaulty, List.getLast?_cons, h]
  | _ =>
    simp [extend, absorb, add, List.filterMap_cons, Directive.input?, Directive.output?,
      Directive.errorOutput?, Directive.status?, Directive.isFaulty]

end Testcase

/-! ## Openings, segments and stretches -/

/-- A `!` line and the lines up to the next one. -/
structure Segment (α : Type) where
  /-- The number of the `!` line. -/
  line : Nat
  /-- What follows the `!`. -/
  text : String
  body : List α

/-- A run of lines and the testcase that they make, if they make one. -/
structure Stretch (α : Type) where
  lines : List α
  testcase? : Option Testcase

section

variable {α : Type} (reads : α → Directive)

/-- The lines before the first `!` line. -/
def opening (ls : List α) : List α :=
  ls.takeWhile fun l => !(reads l).isCommand

/-- The segments of some lines, of which the first has the number `n`. -/
def segments : (n : Nat) → List α → List (Segment α)
  | _, [] => []
  | n, l :: ls =>
    match reads l with
    | .command text => ⟨n, text, opening reads ls⟩ :: segments (n + 1) ls
    | _ => segments (n + 1) ls

/-- The testcase that a segment makes. -/
def Segment.testcase (s : Segment α) : Testcase where
  command := .ofList (Text.trim s.text.toList)
  stdin := (s.body.map reads).filterMap Directive.input?
  stdout := (s.body.map reads).filterMap Directive.output?
  stderr := (s.body.map reads).filterMap Directive.errorOutput?
  exitStatus :=
    ((s.body.map reads).filterMap Directive.status?).getLast?.getD Testcase.defaultStatus
  malformed := (s.body.map reads).any Directive.isFaulty
  line := s.line

/-- The testcase that the opening makes, if one of its lines is not blank; the first line has the
number `n`. -/
def orphan? (n : Nat) (ls : List α) : Option Testcase :=
  ((opening reads ls).findIdx? fun l => reads l != .blank).map fun i =>
    { command := "", malformed := true, line := n + i }

/-- The testcases of a spec in order. -/
def testcases (ls : List α) : List Testcase :=
  (orphan? reads 1 ls).toList ++ (segments reads 1 ls).map (Segment.testcase reads)

/-- A segment as a stretch. -/
def Segment.stretch (s : Segment α) : Stretch α :=
  ⟨s.body, some (s.testcase reads)⟩

/-- The opening and the segments of a spec as stretches. -/
def stretches (ls : List α) : List (Stretch α) :=
  ⟨opening reads ls, orphan? reads 1 ls⟩ :: (segments reads 1 ls).map (Segment.stretch reads)

/-- The stretches that a draft cuts further lines into. The first of them ends the stretch that the
draft is in. -/
def Draft.stretches (d : Draft) : List α → List (Stretch α)
  | [] => [⟨[], d.pending?⟩]
  | l :: ls =>
    let rest := (d.take (reads l)).2.stretches ls
    if (reads l).isCommand then ⟨[], d.pending?⟩ :: rest
    else rest.modifyHead fun s => { s with lines := l :: s.lines }

/-- The testcases that a draft closes when it takes further lines and then ends. -/
def Draft.due (d : Draft) (ls : List α) : List Testcase :=
  (d.stretches reads ls).filterMap Stretch.testcase?

theorem Segment.testcase_eq_extend (s : Segment α) :
    s.testcase reads = (Testcase.start s.text s.line).extend (s.body.map reads) := by
  simp [Segment.testcase, Testcase.start, Testcase.extend]

@[simp] theorem opening_nil : opening reads [] = [] := rfl

/-- Lines are none, or a `!` line before others, or another line before others. -/
theorem command_induction {motive : List α → Prop} (nil : motive [])
    (command : ∀ l ls text, reads l = .command text → motive ls → motive (l :: ls))
    (other : ∀ l ls, (reads l).isCommand = false → motive ls → motive (l :: ls))
    (ls : List α) : motive ls := by
  induction ls with
  | nil => exact nil
  | cons l ls ih =>
    cases hl : (reads l).isCommand with
    | true =>
      obtain ⟨text, htext⟩ := Directive.exists_of_isCommand hl
      exact command l ls text htext ih
    | false => exact other l ls hl ih

variable {reads} {l : α} {text : String}

theorem opening_cons_command (h : reads l = .command text) (ls : List α) :
    opening reads (l :: ls) = [] := by
  simp [opening, h, Directive.isCommand]

theorem opening_cons (h : (reads l).isCommand = false) (ls : List α) :
    opening reads (l :: ls) = l :: opening reads ls := by
  simp [opening, h]

theorem segments_cons_command (h : reads l = .command text) (n : Nat) (ls : List α) :
    segments reads n (l :: ls) = ⟨n, text, opening reads ls⟩ :: segments reads (n + 1) ls := by
  simp [segments, h]

theorem segments_cons (h : (reads l).isCommand = false) (n : Nat) (ls : List α) :
    segments reads n (l :: ls) = segments reads (n + 1) ls := by
  cases hl : reads l <;> simp_all [segments, Directive.isCommand]

theorem orphan?_cons_blank (h : reads l = .blank) (n : Nat) (ls : List α) :
    orphan? reads n (l :: ls) = orphan? reads (n + 1) ls := by
  rw [orphan?, opening_cons (by simp [h, Directive.isCommand]), orphan?, List.findIdx?_cons]
  simp [h, Function.comp_def, Nat.add_assoc, Nat.add_comm 1]

theorem orphan?_cons (h : (reads l).isCommand = false) (hb : reads l ≠ .blank) (n : Nat)
    (ls : List α) :
    orphan? reads n (l :: ls) = some { command := "", malformed := true, line := n } := by
  rw [orphan?, opening_cons h, List.findIdx?_cons]
  simp [hb]

theorem orphan?_cons_command (h : reads l = .command text) (n : Nat) (ls : List α) :
    orphan? reads n (l :: ls) = none := by
  simp [orphan?, opening_cons_command h]

/-- Lines that are no commands go to what they follow. -/
theorem opening_append (reads : α → Directive) {ls : List α}
    (h : ∀ x ∈ ls, (reads x).isCommand = false) (ms : List α) :
    opening reads (ls ++ ms) = ls ++ opening reads ms := by
  induction ls with
  | nil => rfl
  | cons l ls ih =>
    rw [List.forall_mem_cons] at h
    rw [List.cons_append, opening_cons h.1, ih h.2, List.cons_append]

theorem segments_append (reads : α → Directive) {ls : List α}
    (h : ∀ x ∈ ls, (reads x).isCommand = false) (n : Nat) (ms : List α) :
    segments reads n (ls ++ ms) = segments reads (n + ls.length) ms := by
  induction ls generalizing n with
  | nil => rfl
  | cons l ls ih =>
    rw [List.forall_mem_cons] at h
    rw [List.cons_append, segments_cons h.1, ih h.2, List.length_cons, Nat.add_assoc,
      Nat.add_comm 1]

theorem opening_eq_self {ls : List α} (h : ∀ x ∈ ls, (reads x).isCommand = false) :
    opening reads ls = ls := by
  simpa using opening_append reads h []

theorem segments_eq_nil {ls : List α} (h : ∀ x ∈ ls, (reads x).isCommand = false) (n : Nat) :
    segments reads n ls = [] := by
  simpa [segments] using segments_append reads h n []

/-- A spec whose only `!` line is the first makes one stretch besides its empty opening. -/
theorem stretches_of_single (h : reads l = .command text) {ls : List α}
    (hls : ∀ x ∈ ls, (reads x).isCommand = false) :
    stretches reads (l :: ls) = [⟨[], none⟩, Segment.stretch reads ⟨1, text, ls⟩] := by
  rw [stretches, opening_cons_command h, orphan?_cons_command h, segments_cons_command h,
    opening_eq_self hls, segments_eq_nil hls]
  rfl

theorem testcases_of_single (h : reads l = .command text) {ls : List α}
    (hls : ∀ x ∈ ls, (reads x).isCommand = false) :
    testcases reads (l :: ls) = [Segment.testcase reads ⟨1, text, ls⟩] := by
  rw [testcases, orphan?_cons_command h, segments_cons_command h, opening_eq_self hls,
    segments_eq_nil hls]
  rfl

theorem orphan?_eq_none {n : Nat} {ls : List α} :
    orphan? reads n ls = none ↔ ∀ l ∈ opening reads ls, reads l = .blank := by
  simp [orphan?, List.findIdx?_eq_none_iff]

theorem malformed_of_orphan? {n : Nat} {ls : List α} {tc : Testcase}
    (h : orphan? reads n ls = some tc) : tc.malformed = true := by
  obtain ⟨i, -, rfl⟩ := Option.map_eq_some_iff.1 h
  rfl

/-- A faulty line stands in the opening or in the body of a segment. -/
theorem forall_isFaulty_iff (n : Nat) (ls : List α) :
    (∀ l ∈ ls, (reads l).isFaulty = false) ↔
      (∀ l ∈ opening reads ls, (reads l).isFaulty = false) ∧
        ∀ s ∈ segments reads n ls, ∀ l ∈ s.body, (reads l).isFaulty = false := by
  induction ls using command_induction reads generalizing n with
  | nil => simp [segments]
  | command l ls text htext ih =>
    rw [opening_cons_command htext, segments_cons_command htext]
    simp [htext, ih (n + 1)]
  | other l ls hl ih =>
    rw [opening_cons hl, segments_cons hl]
    simp [ih (n + 1), and_assoc]

/-- No testcase is malformed exactly if no line is rejected. -/
theorem forall_malformed_iff {ls : List α} :
    (∀ tc ∈ testcases reads ls, tc.malformed = false) ↔
      (∀ l ∈ opening reads ls, reads l = .blank) ∧ ∀ l ∈ ls, (reads l).isFaulty = false := by
  have horphan : (∀ tc ∈ (orphan? reads 1 ls).toList, tc.malformed = false) ↔
      ∀ l ∈ opening reads ls, reads l = .blank := by
    rw [← orphan?_eq_none (n := 1)]
    cases h : orphan? reads 1 ls with
    | none => simp
    | some tc => simp [malformed_of_orphan? h]
  have hsegments :
      (∀ tc ∈ (segments reads 1 ls).map (Segment.testcase reads), tc.malformed = false) ↔
      ∀ s ∈ segments reads 1 ls, ∀ l ∈ s.body, (reads l).isFaulty = false := by
    simp [Segment.testcase]
  simp only [testcases, List.mem_append, or_imp, forall_and]
  rw [horphan, hsegments, forall_isFaulty_iff 1 ls]
  refine and_congr_right fun hblank => ⟨fun h => ⟨fun l hl => ?_, h⟩, fun h => h.2⟩
  rw [hblank l hl]
  rfl

theorem testcases_eq_map_segments {ls : List α} (h : ∀ l ∈ opening reads ls, reads l = .blank) :
    testcases reads ls = (segments reads 1 ls).map (Segment.testcase reads) := by
  rw [testcases, orphan?_eq_none.2 h]
  rfl

end

/-! ## One step of a draft -/

namespace Draft

variable {d : Draft} {x : Directive}

@[simp] theorem line_take (d : Draft) (x : Directive) : (d.take x).2.line = d.line + 1 := by
  unfold take
  split
  · rfl
  · cases x <;> rfl

@[simp] theorem started_take (d : Draft) (x : Directive) :
    (d.take x).2.started = (d.started || x.isCommand) := by
  cases h : d.started <;> cases x <;> simp [take, Directive.rejection?, Directive.isCommand, h]

theorem take_command (d : Draft) (text : String) :
    d.take (.command text) =
      (d.pending?.elim .inside .closed, ⟨.start text (d.line + 1), true, d.line + 1⟩) := rfl

theorem take_of_rejected {r : Rejection} (h : x.rejection? d.started = some r) :
    d.take x = (.rejected (r.error (d.line + 1)),
      { d with current := d.spoiled (d.line + 1), line := d.line + 1 }) := by
  simp [take, h]

theorem take_of_accepted (hx : x.isCommand = false) (h : x.rejection? d.started = none) :
    d.take x = (.inside, { d with current := d.current.add x, line := d.line + 1 }) := by
  cases x <;> simp_all [take, Directive.isCommand]

/-- Inside a segment, the draft absorbs the directive. -/
theorem take_of_started (hd : d.started = true) (hx : x.isCommand = false) :
    (d.take x).2 = { d with current := d.current.absorb x, line := d.line + 1 } := by
  cases x <;>
    simp_all [take, Directive.rejection?, spoiled, Testcase.absorb, Testcase.add,
      Directive.isCommand, Directive.isFaulty]

theorem take_blank (d : Draft) : d.take .blank = (.inside, { d with line := d.line + 1 }) := rfl

/-- Before any `!` line, the draft rejects what is not blank. -/
theorem take_of_unstarted (hd : d.started = false) (hx : x.isCommand = false) (hb : x ≠ .blank) :
    (d.take x).2 = { d with current := d.spoiled (d.line + 1), line := d.line + 1 } := by
  cases x <;> simp_all [take, Directive.rejection?, Directive.isCommand]

/-- A testcase is spoiled once. -/
theorem spoiled_of_malformed (hm : d.current.malformed = true) (line : Nat) :
    d.spoiled line = d.current := by
  obtain ⟨⟨command, stdin, stdout, stderr, status, malformed, number⟩, started, n⟩ := d
  simp_all [spoiled]

/-! ## Where a draft cuts -/

variable {α : Type} {reads : α → Directive}

theorem stretches_cons_command {l : α} {text : String} (h : reads l = .command text) (d : Draft)
    (ls : List α) :
    d.stretches reads (l :: ls) =
      ⟨[], d.pending?⟩ ::
        (⟨.start text (d.line + 1), true, d.line + 1⟩ : Draft).stretches reads ls := by
  simp [stretches, h, Directive.isCommand, take_command]

theorem stretches_cons {l : α} (h : (reads l).isCommand = false) (d : Draft) (ls : List α) :
    d.stretches reads (l :: ls) =
      ((d.take (reads l)).2.stretches reads ls).modifyHead fun s =>
        { s with lines := l :: s.lines } := by
  simp [stretches, h]

theorem stretches_ne_nil (reads : α → Directive) (d : Draft) (ls : List α) :
    d.stretches reads ls ≠ [] := by
  induction ls generalizing d with
  | nil => simp [stretches]
  | cons l ls ih =>
    rw [stretches]
    split
    · exact List.cons_ne_nil _ _
    · simpa using ih _

/-- The lines of the stretches are all lines but the commands. -/
theorem flatMap_stretches (reads : α → Directive) (d : Draft) (ls : List α) :
    (d.stretches reads ls).flatMap Stretch.lines = ls.filter fun l => !(reads l).isCommand := by
  induction ls using command_induction reads generalizing d with
  | nil => rfl
  | command l ls text htext ih =>
    have hl : (reads l).isCommand = true := htext ▸ rfl
    rw [stretches_cons_command htext, List.flatMap_cons, ih,
      List.filter_cons_of_neg (by simp [hl])]
    rfl
  | other l ls hl ih =>
    obtain ⟨s, ss, hss⟩ :=
      List.exists_cons_of_ne_nil (stretches_ne_nil reads (d.take (reads l)).2 ls)
    rw [stretches_cons hl, List.filter_cons_of_pos (by simp [hl]), ← ih, hss]
    rfl

theorem due_nil (d : Draft) : d.due reads [] = d.pending?.toList := by
  cases h : d.pending? <;> simp [due, stretches, h]

theorem due_cons_command {l : α} {text : String} (h : reads l = .command text) (d : Draft)
    (ls : List α) :
    d.due reads (l :: ls) =
      d.pending?.toList ++ (⟨.start text (d.line + 1), true, d.line + 1⟩ : Draft).due reads ls := by
  rw [due, stretches_cons_command h]
  cases d.pending? <;> simp [due]

theorem due_cons {l : α} (h : (reads l).isCommand = false) (d : Draft) (ls : List α) :
    d.due reads (l :: ls) = (d.take (reads l)).2.due reads ls := by
  obtain ⟨s, ss, hss⟩ := List.exists_cons_of_ne_nil (stretches_ne_nil reads (d.take (reads l)).2 ls)
  rw [due, due, stretches_cons h, hss, List.modifyHead_cons, List.filterMap_cons,
    List.filterMap_cons]

/-- After a `!` line, the draft holds the testcase of the segment it is in. -/
theorem stretches_of_started (hd : d.started = true) (ls : List α) :
    d.stretches reads ls =
      ⟨opening reads ls, some (d.current.extend ((opening reads ls).map reads))⟩ ::
        (segments reads (d.line + 1) ls).map (Segment.stretch reads) := by
  induction ls using command_induction reads generalizing d with
  | nil => simp [stretches, pending?, hd, segments]
  | command l ls text htext ih =>
    rw [stretches_cons_command htext, ih rfl, opening_cons_command htext,
      segments_cons_command htext]
    simp [pending?, hd, Segment.stretch, Segment.testcase_eq_extend]
  | other l ls hl ih =>
    rw [stretches_cons hl, take_of_started hd hl, ih (by exact hd), opening_cons hl,
      segments_cons hl]
    simp [Testcase.extend_cons]

/-- Once a line is rejected before any `!` line, the draft holds the orphan until the first. -/
theorem stretches_of_spoiled (hd : d.started = false) (hm : d.current.malformed = true)
    (ls : List α) :
    d.stretches reads ls =
      ⟨opening reads ls, some d.current⟩ ::
        (segments reads (d.line + 1) ls).map (Segment.stretch reads) := by
  induction ls using command_induction reads generalizing d with
  | nil => simp [stretches, pending?, hm, segments]
  | command l ls text htext ih =>
    rw [stretches_cons_command htext, stretches_of_started rfl, opening_cons_command htext,
      segments_cons_command htext]
    simp [pending?, hm, Segment.stretch, Segment.testcase_eq_extend]
  | other l ls hl ih =>
    have hcurrent : (d.take (reads l)).2.current = d.current := by
      by_cases hb : reads l = .blank
      · rw [hb, take_blank]
      · rw [take_of_unstarted hd hl hb]
        exact spoiled_of_malformed hm _
    rw [stretches_cons hl, ih (by simp [hd, hl]) (by rw [hcurrent, hm]), hcurrent,
      opening_cons hl, segments_cons hl]
    simp

/-- As long as every line is blank, the draft holds nothing. -/
theorem stretches_of_unspoiled (n : Nat) (ls : List α) :
    ({ line := n } : Draft).stretches reads ls =
      ⟨opening reads ls, orphan? reads (n + 1) ls⟩ ::
        (segments reads (n + 1) ls).map (Segment.stretch reads) := by
  induction ls using command_induction reads generalizing n with
  | nil => simp [stretches, pending?, segments, orphan?]
  | command l ls text htext ih =>
    rw [stretches_cons_command htext, stretches_of_started rfl, opening_cons_command htext,
      segments_cons_command htext, orphan?_cons_command htext]
    simp [pending?, Segment.stretch, Segment.testcase_eq_extend]
  | other l ls hl ih =>
    by_cases hb : reads l = .blank
    · rw [stretches_cons hl, hb, take_blank, ih, opening_cons hl, segments_cons hl,
        orphan?_cons_blank hb]
      simp
    · rw [stretches_cons hl, take_of_unstarted rfl hl hb,
        stretches_of_spoiled rfl rfl, opening_cons hl, segments_cons hl, orphan?_cons hl hb]
      simp [spoiled]

/-- **A draft cuts a spec into its opening and its segments**, each with the testcase it makes. -/
theorem stretches_empty (ls : List α) :
    Draft.empty.stretches reads ls = CommandSpec.stretches reads ls :=
  stretches_of_unspoiled 0 ls

theorem due_empty (ls : List α) : Draft.empty.due reads ls = testcases reads ls := by
  rw [due, stretches_empty]
  cases h : orphan? reads 1 ls <;>
    simp [CommandSpec.stretches, testcases, h, Function.comp_def, Segment.stretch]

end Draft

end CommandSpec
