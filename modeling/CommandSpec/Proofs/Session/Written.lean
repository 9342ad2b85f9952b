import CommandSpec.Proofs.Session.Golden
import Mathlib.Data.List.Forall2

/-!
# Specs written from testcases

A testcase is written as a `!` line with its command, the lines of its channels and a `?` line with
its exit status. The lines of different channels may be mixed, as long as each channel keeps its
order. Blank lines and comments may stand anywhere, and every line may be indented.

**Theorem (`read_written`).** What is read from a spec written from some testcases are these
testcases, numbered by their `!` lines; no line is rejected.

A line is read by itself (`Written.directive`): the blanks before its marker are dropped, and what
comes after the marker is kept, less the carriage return and the newline that close the line. The
lines then fall into segments, each of which makes the testcase it was written from
(`segments_written`); this is an induction on the testcases, and the blank lines after a testcase go
to the segment before them.
-/

namespace CommandSpec

/-! ## Writing directives -/

/-- The directive can be written as a line: it is not faulty, and what it says has no newline and no
more than 32 bits. -/
def Directive.Writable : Directive → Prop
  | command text => '\n' ∉ text.toList
  | input text => '\n' ∉ text.toList
  | output text => '\n' ∉ text.toList
  | errorOutput text => '\n' ∉ text.toList
  | status n => -2 ^ 31 ≤ n ∧ n < 2 ^ 31
  | blank => True
  | _ => False

theorem Directive.Writable.isFaulty {x : Directive} (h : x.Writable) : x.isFaulty = false := by
  cases x with
  | badStatus | unknown => exact h.elim
  | _ => rfl

/-- A line without its indentation and its newline says the directive. -/
inductive Inscribes : List UInt8 → Directive → Prop
  | command (text : String) :
      Inscribes (marked 0x21 (Utf8.encode text.toList)) (.command text)
  | input (text : String) : Inscribes (marked 0x3C (Utf8.encode text.toList)) (.input text)
  | output (text : String) : Inscribes (marked 0x3E (Utf8.encode text.toList)) (.output text)
  | errorOutput (text : String) :
      Inscribes (marked 0x2F (Utf8.encode text.toList)) (.errorOutput text)
  | status (n : Int) : Inscribes (marked 0x3F (Utf8.encode (toString n).toList)) (.status n)
  | comment {text : List UInt8} : Text.newline ∉ text → Inscribes (0x23 :: text) .blank
  | blank : Inscribes [] .blank

/-- A line without its newline is the directive, behind some blanks. -/
def Written (line : List UInt8) (x : Directive) : Prop :=
  ∃ indent mark, (∀ c ∈ indent, isBlank c = true ∧ c ≠ '\n') ∧ Inscribes mark x ∧
    line = Utf8.encode indent ++ mark

/-! ## Reading a line back -/

section

variable {mark line : List UInt8} {x : Directive}

theorem Inscribes.newline_not_mem (h : Inscribes mark x) (hx : x.Writable) :
    Text.newline ∉ mark := by
  have hmarked {marker : UInt8} {text : String} (hm : marker ≠ Text.newline)
      (ht : '\n' ∉ text.toList) : Text.newline ∉ marked marker (Utf8.encode text.toList) :=
    newline_not_mem_marked hm (Utf8.newline_not_mem_encode ht)
  cases h with
  | command | input | output | errorOutput => exact hmarked (by decide) hx
  | status n =>
    exact hmarked (by decide) fun hmem => absurd (Text.isBlank_of_mem_toString hmem) (by decide)
  | comment ht => exact List.not_mem_cons_of_ne_of_not_mem (by decide) ht
  | blank => exact List.not_mem_nil

/-- A line starts with its marker or, if it has none, is its newline. -/
theorem Inscribes.exists_ascii (h : Inscribes mark x) :
    ∃ b rest, mark ++ [Text.newline] = b :: rest ∧ b.toNat ≤ 0x7F := by
  cases h <;> exact ⟨_, _, rfl, by decide⟩

theorem Inscribes.directive (h : Inscribes mark x) (hx : x.Writable) :
    (SpecLine.ofBytes (mark ++ [Text.newline])).directive = x := by
  cases h with
  | command text => rw [directive_command, Utf8.decode_encode, String.ofList_toList]
  | input text => rw [directive_input, Utf8.decode_encode, String.ofList_toList]
  | output text => rw [directive_output, Utf8.decode_encode, String.ofList_toList]
  | errorOutput text => rw [directive_errorOutput, Utf8.decode_encode, String.ofList_toList]
  | status n => exact directive_status hx.1 hx.2
  | @comment text _ =>
    rw [List.cons_append, SpecLine.ofBytes, Utf8.decode_cons (by decide)]
    rfl
  | blank => rfl

/-- Blanks before an ASCII byte are passed over. -/
theorem directive_indented {indent : List Char} (h : ∀ c ∈ indent, isBlank c = true) {b : UInt8}
    (hb : b.toNat ≤ 0x7F) (rest : List UInt8) :
    (SpecLine.ofBytes (Utf8.encode indent ++ b :: rest)).directive =
      (SpecLine.ofBytes (b :: rest)).directive := by
  rw [SpecLine.ofBytes, Utf8.decode_append_cons hb, Utf8.decode_encode, SpecLine.ofBytes,
    Utf8.decode_cons hb, SpecLine.ofChars, SpecLine.ofChars, Text.trimStart_indented h]

theorem Written.newline_not_mem (h : Written line x) (hx : x.Writable) : Text.newline ∉ line := by
  obtain ⟨indent, mark, hindent, hmark, rfl⟩ := h
  rw [List.mem_append, not_or]
  exact ⟨Utf8.newline_not_mem_encode fun hmem => (hindent _ hmem).2 rfl,
    hmark.newline_not_mem hx⟩

/-- **A line is read back.** -/
theorem Written.directive (h : Written line x) (hx : x.Writable) :
    (SpecLine.ofBytes (line ++ [Text.newline])).directive = x := by
  obtain ⟨indent, mark, hindent, hmark, rfl⟩ := h
  obtain ⟨b, rest, hrest, hb⟩ := hmark.exists_ascii
  rw [List.append_assoc, hrest, directive_indented (fun c hc => (hindent c hc).1) hb, ← hrest,
    hmark.directive hx]

theorem directives_of_written {lines : List (List UInt8)} {xs : List Directive}
    (h : List.Forall₂ Written lines xs) (hxs : ∀ x ∈ xs, x.Writable) :
    (linesOfSpec (lines.flatMap (· ++ [Text.newline]))).map SpecLine.directive = xs := by
  have hread : (∀ line ∈ lines, Text.newline ∉ line) ∧
      lines.map (fun line => (SpecLine.ofBytes (line ++ [Text.newline])).directive) = xs := by
    induction h with
    | nil => simp
    | cons hline _ ih =>
      rw [List.forall_mem_cons] at hxs
      obtain ⟨hnewline, hmap⟩ := ih hxs.2
      rw [List.forall_mem_cons, List.map_cons, hline.directive hxs.1, hmap]
      exact ⟨⟨hline.newline_not_mem hxs.1, hnewline⟩, rfl⟩
  rw [linesOfSpec, Text.physicalLines_flatMap hread.1, List.map_map, List.map_map]
  exact hread.2

end

/-! ## Writing testcases -/

/-- The lines of three channels, mixed. -/
inductive Interleaves :
    List String → List String → List String → List Directive → Prop
  | nil : Interleaves [] [] [] []
  | input {is os es : List String} {xs : List Directive} (line : String) :
      Interleaves is os es xs → Interleaves (line :: is) os es (.input line :: xs)
  | output {is os es : List String} {xs : List Directive} (line : String) :
      Interleaves is os es xs → Interleaves is (line :: os) es (.output line :: xs)
  | errorOutput {is os es : List String} {xs : List Directive} (line : String) :
      Interleaves is os es xs → Interleaves is os (line :: es) (.errorOutput line :: xs)

namespace Testcase

/-- The directives write the testcase: its command, the lines of its channels and its exit status.
-/
def Spells (tc : Testcase) (xs : List Directive) : Prop :=
  ∃ body, Interleaves tc.stdin tc.stdout tc.stderr body ∧
    xs = .command tc.command :: (body ++ [.status tc.exitStatus])

/-- The testcase can be written: its command is trimmed, its texts are lines, its exit status has 32
bits, and none of its lines was rejected. -/
structure Writable (tc : Testcase) : Prop where
  trimmed : Text.trim tc.command.toList = tc.command.toList
  command : '\n' ∉ tc.command.toList
  stdin : ∀ line ∈ tc.stdin, '\n' ∉ line.toList
  stdout : ∀ line ∈ tc.stdout, '\n' ∉ line.toList
  stderr : ∀ line ∈ tc.stderr, '\n' ∉ line.toList
  status : -2 ^ 31 ≤ tc.exitStatus ∧ tc.exitStatus < 2 ^ 31
  wellFormed : tc.malformed = false

/-- The testcase with another line number. -/
def onLine (n : Nat) (tc : Testcase) : Testcase :=
  { tc with line := n }

end Testcase

/-! ## Reading testcases back -/

section

variable {is os es : List String} {xs body : List Directive}

theorem Interleaves.writable (h : Interleaves is os es body) (hi : ∀ line ∈ is, '\n' ∉ line.toList)
    (ho : ∀ line ∈ os, '\n' ∉ line.toList) (he : ∀ line ∈ es, '\n' ∉ line.toList) :
    ∀ x ∈ body, x.Writable := by
  induction h with
  | nil => simp
  | input line _ ih =>
    rw [List.forall_mem_cons] at hi ⊢
    exact ⟨hi.1, ih hi.2 ho he⟩
  | output line _ ih =>
    rw [List.forall_mem_cons] at ho ⊢
    exact ⟨ho.1, ih hi ho.2 he⟩
  | errorOutput line _ ih =>
    rw [List.forall_mem_cons] at he ⊢
    exact ⟨he.1, ih hi ho he.2⟩

theorem Testcase.Spells.writable {tc : Testcase} (h : tc.Spells xs) (htc : tc.Writable) :
    ∀ x ∈ xs, x.Writable := by
  obtain ⟨body, hbody, rfl⟩ := h
  rw [List.forall_mem_cons, List.forall_mem_append, List.forall_mem_singleton]
  exact ⟨htc.command, hbody.writable htc.stdin htc.stdout htc.stderr, htc.status⟩

theorem writable_of_spelled {tcs : List Testcase} {parts : List (List Directive)}
    (h : List.Forall₂ Testcase.Spells tcs parts) (htcs : ∀ tc ∈ tcs, tc.Writable) :
    ∀ x ∈ parts.flatten, x.Writable := by
  induction h with
  | nil => simp
  | cons htc _ ih =>
    rw [List.forall_mem_cons] at htcs
    rw [List.flatten_cons, List.forall_mem_append]
    exact ⟨htc.writable htcs.1, ih htcs.2⟩

/-- The lines of each channel, and nothing else. -/
theorem Interleaves.filterMap (h : Interleaves is os es body) :
    body.filterMap Directive.input? = is ∧ body.filterMap Directive.output? = os ∧
      body.filterMap Directive.errorOutput? = es ∧ body.filterMap Directive.status? = [] ∧
      ∀ x ∈ body, x.isFaulty = false ∧ x.isCommand = false := by
  induction h with
  | nil => simp
  | input | output | errorOutput =>
    simp_all [List.filterMap_cons, Directive.input?, Directive.output?, Directive.errorOutput?,
      Directive.status?, Directive.isFaulty, Directive.isCommand]

/-- A blank line adds nothing to a testcase. -/
theorem Testcase.extend_filter (tc : Testcase) (xs : List Directive) :
    tc.extend (xs.filter (· ≠ .blank)) = tc.extend xs := by
  induction xs generalizing tc with
  | nil => rfl
  | cons x xs ih =>
    by_cases hx : x = .blank
    · have habsorb : tc.absorb .blank = tc := by simp [absorb, add, Directive.isFaulty]
      rw [hx, List.filter_cons_of_neg (by simp), ih, extend_cons, habsorb]
    · rw [List.filter_cons_of_pos (by simpa using hx), extend_cons, extend_cons, ih]

/-- **A testcase is read back**, whatever blank lines stand among its own. -/
theorem testcase_of_spelled {tc : Testcase} (htc : tc.Writable)
    (hbody : Interleaves tc.stdin tc.stdout tc.stderr body)
    (hxs : xs.filter (· ≠ .blank) = body ++ [.status tc.exitStatus]) (n : Nat) :
    Segment.testcase id ⟨n, tc.command, xs⟩ = tc.onLine n := by
  obtain ⟨hin, hout, herr, hstatus, hfaulty⟩ := hbody.filterMap
  obtain ⟨command, stdin, stdout, stderr, exitStatus, malformed, line⟩ := tc
  obtain rfl : malformed = false := htc.wellFormed
  rw [Segment.testcase_eq_extend, List.map_id, ← Testcase.extend_filter, hxs]
  simp_all [Testcase.extend, Testcase.start, Testcase.onLine, htc.trimmed, Directive.input?,
    Directive.output?, Directive.errorOutput?, Directive.status?, Directive.isFaulty]

end

theorem isCommand_of_filter {xs ys : List Directive} (h : xs.filter (· ≠ .blank) = ys)
    (hys : ∀ y ∈ ys, y.isCommand = false) : ∀ x ∈ xs, x.isCommand = false := by
  intro x hx
  by_cases hb : x = .blank
  · rw [hb]
    rfl
  · exact hys x (h ▸ List.mem_filter.2 ⟨hx, by simpa using hb⟩)

/-- **Testcases are read back in order.** No line before the first of them is content. -/
theorem segments_written {tcs : List Testcase} {parts : List (List Directive)}
    (h : List.Forall₂ Testcase.Spells tcs parts) (htcs : ∀ tc ∈ tcs, tc.Writable)
    {xs : List Directive} (hxs : xs.filter (· ≠ .blank) = parts.flatten) (n : Nat) :
    OpensBlank id xs ∧
      (xs.findIdxs Directive.isCommand n).length = tcs.length ∧
      (segments id n xs).map (Segment.testcase id) =
        (xs.findIdxs Directive.isCommand n).zipWith Testcase.onLine tcs := by
  induction h generalizing xs n with
  | nil =>
    have hcommand : ∀ x ∈ xs, x.isCommand = false := isCommand_of_filter hxs (by simp)
    have hblank : ∀ x ∈ xs, x = .blank := by simpa [List.filter_eq_nil_iff] using hxs
    have hopening : opening id xs = xs := opening_eq_self hcommand
    have hsegments : segments id n xs = [] := segments_eq_nil hcommand n
    rw [OpensBlank, hopening, hsegments, List.findIdxs_eq_nil_iff.2 hcommand]
    exact ⟨hblank, rfl, rfl⟩
  | @cons tc part tcs parts htc _ ih =>
    obtain ⟨body, hbody, rfl⟩ := htc
    rw [List.forall_mem_cons] at htcs
    -- The blank lines before the command, its own lines, and the lines of the other testcases.
    obtain ⟨before, rest, rfl, hbefore, -, hrest⟩ := List.filter_eq_cons_iff.1 hxs
    obtain ⟨own, others, rfl, hown, hothers⟩ := List.filter_eq_append_iff.1 hrest
    obtain ⟨hopen, hlength, hsegments⟩ :=
      ih htcs.2 hothers (n + before.length + 1 + own.length)
    have hblank : ∀ x ∈ before, x = .blank := by simpa using hbefore
    have hbefore : ∀ x ∈ before, x.isCommand = false := fun x hx => by
      rw [hblank x hx]
      rfl
    have hown' : ∀ x ∈ own, x.isCommand = false :=
      isCommand_of_filter hown (by
        rw [List.forall_mem_append, List.forall_mem_singleton]
        exact ⟨fun x hx => (hbody.filterMap.2.2.2.2 x hx).2, rfl⟩)
    have hsegment : (own ++ opening id others).filter (· ≠ .blank) =
        body ++ [.status tc.exitStatus] := by
      rw [List.filter_append, hown, List.filter_eq_nil_iff.2 fun x hx => by simpa using hopen x hx,
        List.append_nil]
    have hcommand : (Directive.command tc.command).isCommand = true := rfl
    have hid : id (Directive.command tc.command) = .command tc.command := rfl
    have hcommands : (before ++ .command tc.command :: (own ++ others)).findIdxs
          Directive.isCommand n =
        (n + before.length) ::
          others.findIdxs Directive.isCommand (n + before.length + 1 + own.length) := by
      rw [List.findIdxs_append, List.findIdxs_eq_nil_iff.2 hbefore, List.nil_append,
        List.findIdxs_cons, if_pos hcommand, List.findIdxs_append, List.findIdxs_eq_nil_iff.2 hown',
        List.nil_append]
    rw [hcommands]
    refine ⟨?_, congrArg (· + 1) hlength, ?_⟩
    · rw [OpensBlank, opening_append id hbefore, opening_cons_command hid, List.append_nil]
      exact hblank
    · rw [segments_append id hbefore, segments_cons_command hid, segments_append id hown',
        opening_append id hown', List.map_cons, hsegments,
        testcase_of_spelled htcs.1 hbody hsegment]
      rfl

/-! ## Reading a spec back -/

/-- The testcases that are read from a spec: those that its lines close, and the one that is pending
where it ends. -/
def testcasesRead (bytes : List UInt8) : List Testcase :=
  let xs := (linesOfSpec bytes).map SpecLine.directive
  Draft.empty.closes xs ++ (Draft.empty.after xs).pending?.toList

theorem testcasesRead_eq (bytes : List UInt8) :
    testcasesRead bytes = testcases id ((linesOfSpec bytes).map SpecLine.directive) := by
  rw [← Draft.due_empty, ← Draft.closes_append_pending?, List.map_id]
  rfl

/-- **Writing and reading.** Some testcases are spelled by directives, blank lines are put between
them, and each directive is written as a line. From the spec that these lines make, the testcases
are read as they were, each with the number of its `!` line, and no line is rejected. -/
theorem read_written {tcs : List Testcase} {parts : List (List Directive)} {xs : List Directive}
    {lines : List (List UInt8)} (htcs : ∀ tc ∈ tcs, tc.Writable)
    (hparts : List.Forall₂ Testcase.Spells tcs parts)
    (hxs : xs.filter (· ≠ .blank) = parts.flatten) (hlines : List.Forall₂ Written lines xs) :
    let bytes := lines.flatMap (· ++ [Text.newline])
    (xs.findIdxs Directive.isCommand 1).length = tcs.length ∧
      testcasesRead bytes = (xs.findIdxs Directive.isCommand 1).zipWith Testcase.onLine tcs ∧
      Draft.empty.rejections ((linesOfSpec bytes).map SpecLine.directive) = [] := by
  obtain ⟨hopen, hlength, hsegments⟩ := segments_written hparts htcs hxs 1
  have hwritable : ∀ x ∈ xs, x.Writable := fun x hx => by
    by_cases hb : x = .blank
    · rw [hb]
      trivial
    · exact writable_of_spelled hparts htcs x (hxs ▸ List.mem_filter.2 ⟨hx, by simpa using hb⟩)
  intro bytes
  rw [testcasesRead_eq, directives_of_written hlines hwritable,
    testcases_eq_map_segments (by exact hopen), hsegments]
  exact ⟨hlength, rfl, Draft.rejections_eq_nil (.inr hopen) fun x hx => (hwritable x hx).isFaulty⟩

/-- Two testcases, the first with lines that start with a marker or a blank or end in a carriage
return, the second without a command. -/
def twoTestcases : List Testcase :=
  [{ command := "a", stdin := ["x", "!y"], stdout := [" z\r"], stderr := [""], exitStatus := -5,
      line := 0 },
    { command := "", exitStatus := 2147483647, line := 0 }]

/-- The lines of two testcases, mixed, with a comment that is no UTF-8 and with indented lines. -/
def twoWritten : List (List UInt8) :=
  [0x23 :: [0xFF],
    Utf8.encode [' ', '\t'] ++ marked 0x21 (Utf8.encode "a".toList),
    Utf8.encode [] ++ marked 0x3E (Utf8.encode " z\r".toList),
    Utf8.encode ['\u2003'] ++ marked 0x3C (Utf8.encode "x".toList),
    Utf8.encode ['\r'] ++ [],
    Utf8.encode [] ++ marked 0x2F (Utf8.encode "".toList),
    Utf8.encode [] ++ marked 0x3C (Utf8.encode "!y".toList),
    Utf8.encode [] ++ marked 0x3F (Utf8.encode (toString (-5 : Int)).toList),
    Utf8.encode [] ++ marked 0x21 (Utf8.encode "".toList),
    Utf8.encode [] ++ marked 0x3F (Utf8.encode (toString (2147483647 : Int)).toList)]

theorem read_written_two :
    (∀ tc ∈ twoTestcases, tc.Writable) ∧
      testcasesRead (twoWritten.flatMap (· ++ [Text.newline])) =
        [2, 9].zipWith Testcase.onLine twoTestcases ∧
      Draft.empty.rejections ((linesOfSpec (twoWritten.flatMap (· ++ [Text.newline]))).map
        SpecLine.directive) = [] := by
  have hwritable : ∀ tc ∈ twoTestcases, tc.Writable := by
    simp only [twoTestcases, List.forall_mem_cons, List.not_mem_nil, IsEmpty.forall_iff,
      implies_true, and_true]
    exact ⟨⟨by decide, by decide, by decide, by decide, by decide, by decide, rfl⟩,
      ⟨by decide, by decide, by decide, by decide, by decide, by decide, rfl⟩⟩
  have hspells : List.Forall₂ Testcase.Spells twoTestcases
      [[.command "a", .output " z\r", .input "x", .errorOutput "", .input "!y", .status (-5)],
        [.command "", .status 2147483647]] :=
    .cons ⟨_, .output _ (.input _ (.errorOutput _ (.input _ .nil))), rfl⟩
      (.cons ⟨_, .nil, rfl⟩ .nil)
  have hindented {indent : List Char} {mark : List UInt8} {x : Directive}
      (hindent : indent.all (fun c => isBlank c && c != '\n') = true) (h : Inscribes mark x) :
      Written (Utf8.encode indent ++ mark) x := ⟨indent, mark, by simpa using hindent, h, rfl⟩
  have hplain {mark : List UInt8} {x : Directive} (h : Inscribes mark x) :
      Written (Utf8.encode [] ++ mark) x := hindented rfl h
  have hlines : List.Forall₂ Written twoWritten
      [.blank, .command "a", .output " z\r", .input "x", .blank, .errorOutput "", .input "!y",
        .status (-5), .command "", .status 2147483647] :=
    .cons (hplain (.comment (by decide))) <|
    .cons (hindented (by decide) (.command "a")) <|
    .cons (hplain (.output _)) <|
    .cons (hindented (by decide) (.input "x")) <|
    .cons (hindented (by decide) .blank) <|
    .cons (hplain (.errorOutput _)) <|
    .cons (hplain (.input _)) <|
    .cons (hplain (.status _)) <|
    .cons (hplain (.command _)) <|
    .cons (hplain (.status _)) .nil
  exact ⟨hwritable, (read_written hwritable hspells (by decide) hlines).2⟩

end CommandSpec
