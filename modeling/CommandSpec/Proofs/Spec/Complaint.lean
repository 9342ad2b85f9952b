import CommandSpec.Proofs.Spec.Line
import CommandSpec.Proofs.Spec.Succession
import CommandSpec.Session.Source

/-!
# Complaints

What there is to complain about a line can be said from the line itself and from whether a `!` line
came before it (`complaint?`), without a draft.

**Theorem (`rejections_eq_complaints`).** A draft rejects exactly the lines that there is a
complaint about, in order, with their numbers and in these words (`complaints`).

**Theorem (`countP_malformed_testcases`).** As many testcases are malformed as segments have a line
that there is a complaint about, the lines before the first `!` line counting as a segment
(`spoiledSegments`).

Both read the draft position by position: whether it has started is whether a `!` line was among the
lines before, and its line is how many they were (`Draft.rejections_eq_filterMap`).
-/

namespace CommandSpec

/-- The line starts a testcase. -/
def headsSegment (cs : List Char) : Bool :=
  (Text.trimStart cs).head? = some '!'

/-- The complaint about a line, if there is one; `started` says whether a `!` line came before. -/
def complaint? (started : Bool) (cs : List Char) : Option String :=
  match Text.trimStart cs with
  | [] => none
  | c :: rest =>
    if c = '!' ∨ c = '#' then none
    else if c = '?' ∧ Text.readInt32? (Text.trim rest) = none then
      some ("invalid exit status '" ++ .ofList (Text.trim rest) ++ "'")
    else if c = '<' ∨ c = '>' ∨ c = '/' ∨ c = '?' then
      if started then none else some ("'" ++ c.toString ++ "' line before first command")
    else some ("unrecognized marker '" ++ c.toString ++ "'")

/-- The complaints about the lines of a spec with the given label, each with the number of its line.
-/
def complaints (label : String) (ls : List (List Char)) : List String :=
  ls.zipIdx.filterMap fun p =>
    (complaint? ((ls.take p.2).any headsSegment) p.1).map fun message =>
      label ++ ":" ++ toString (p.2 + 1) ++ ": " ++ message

/-- In how many segments there is a line to complain about. The lines before the first `!` line are
one of them. -/
def spoiledSegments (ls : List (List Char)) : Nat :=
  match ls.splitOnP headsSegment with
  | [] => 0
  | first :: bodies =>
    (if first.any fun cs => (complaint? false cs).isSome then 1 else 0) +
      bodies.countP fun body => body.any fun cs => (complaint? true cs).isSome

/-- What a decoded line says. -/
abbrev directiveOf (cs : List Char) : Directive :=
  (SpecLine.ofChars cs).directive

/-! ## One line -/

section

variable {c : Char} {cs rest : List Char} (h : Text.trimStart cs = c :: rest)

theorem directiveOf_of_nil (h : Text.trimStart cs = []) : directiveOf cs = .blank := by
  show Directive.ofLine (Text.trimStart cs) = _
  rw [h]
  rfl

include h

theorem directiveOf_eq : directiveOf cs = Directive.ofLine (c :: rest) := by
  show Directive.ofLine (Text.trimStart cs) = _
  rw [h]

theorem directiveOf_unknown (hc : c ∉ Directive.markers) :
    ∃ line : String, line.toList.head? = some c ∧ directiveOf cs = .unknown line := by
  have hblank := Text.isBlank_of_trimStart h
  have hn : c ≠ '\n' := by
    rintro rfl
    exact absurd hblank (by decide)
  have hr : c ≠ '\r' := by
    rintro rfl
    exact absurd hblank (by decide)
  refine ⟨.ofList (Directive.dropTerminator (c :: rest)), ?_, ?_⟩
  · rw [String.toList_ofList, Directive.head?_dropTerminator hn hr]
  · rw [directiveOf_eq h, Directive.ofLine_unknown hc hn hr]

end

/-- A `?` line is rejected in the words of its complaint. -/
theorem message_rejection?_ofStatus (started : Bool) (rest : List Char) :
    ((Directive.ofStatus (Directive.dropTerminator rest)).rejection? started).map
        Rejection.message =
      if Text.readInt32? (Text.trim rest) = none then
        some ("invalid exit status '" ++ .ofList (Text.trim rest) ++ "'")
      else if started then none
      else some ("'" ++ '?'.toString ++ "' line before first command") := by
  rw [Directive.ofStatus, Directive.trim_dropTerminator]
  have htrim :
      Text.trim (String.ofList (Directive.dropTerminator rest)).toList = Text.trim rest := by
    rw [String.toList_ofList, Directive.trim_dropTerminator]
  cases Text.readInt32? (Text.trim rest) with
  | none =>
    rw [if_pos rfl, ← htrim]
    rfl
  | some n =>
    rw [if_neg (Option.some_ne_none n)]
    cases started <;> rfl

theorem isCommand_ofStatus (rest : List Char) : (Directive.ofStatus rest).isCommand = false := by
  rw [Directive.ofStatus]
  split <;> rfl

theorem isCommand_directiveOf (cs : List Char) : (directiveOf cs).isCommand = headsSegment cs := by
  rw [headsSegment]
  cases h : Text.trimStart cs with
  | nil =>
    rw [directiveOf_of_nil h]
    rfl
  | cons c rest =>
    by_cases hc : c ∈ Directive.markers
    · rw [directiveOf_eq h]
      simp only [Directive.markers, List.mem_cons, List.not_mem_nil, or_false] at hc
      rcases hc with rfl | rfl | rfl | rfl | rfl | rfl <;> try rfl
      exact isCommand_ofStatus _
    · obtain ⟨line, -, hline⟩ := directiveOf_unknown h hc
      have hne : c ≠ '!' := fun heq => hc (heq ▸ List.mem_cons_self)
      simp [hline, Directive.isCommand, hne]

/-- **A line is rejected in the words of its complaint.** -/
theorem message_rejection? (started : Bool) (cs : List Char) :
    ((directiveOf cs).rejection? started).map Rejection.message = complaint? started cs := by
  rw [complaint?]
  cases h : Text.trimStart cs with
  | nil =>
    rw [directiveOf_of_nil h]
    rfl
  | cons c rest =>
    show _ = if _ then _ else _
    by_cases hc : c ∈ Directive.markers
    · rw [directiveOf_eq h]
      simp only [Directive.markers, List.mem_cons, List.not_mem_nil, or_false] at hc
      rcases hc with rfl | rfl | rfl | rfl | rfl | rfl
      case inl | inr.inr.inr.inr.inr =>
        rw [if_pos (by decide)]
        rfl
      case inr.inr.inr.inr.inl =>
        rw [if_neg (by decide), Directive.ofLine, message_rejection?_ofStatus]
        simp only [true_and]
        rfl
      all_goals
        rw [if_neg (by decide), if_neg fun hstatus => absurd hstatus.1 (by decide),
          if_pos (by decide)]
        cases started <;> rfl
    · obtain ⟨line, hhead, hline⟩ := directiveOf_unknown h hc
      simp only [Directive.markers, List.mem_cons, List.not_mem_nil, or_false, not_or] at hc
      obtain ⟨hcommand, hinput, houtput, herror, hstatus, hcomment⟩ := hc
      rw [hline, if_neg (not_or.2 ⟨hcommand, hcomment⟩), if_neg fun h => hstatus h.1,
        if_neg (by simp only [hinput, houtput, herror, hstatus, or_self, not_false_eq_true])]
      show some ("unrecognized marker '" ++ (line.toList.head?.getD ' ').toString ++ "'") = _
      rw [hhead]
      rfl

theorem isSome_complaint? (started : Bool) (cs : List Char) :
    (complaint? started cs).isSome = ((directiveOf cs).rejection? started).isSome := by
  rw [← message_rejection?, Option.isSome_map]

/-! ## All lines -/

theorem render_error (r : Rejection) (label : String) (n : Nat) :
    ((r.error n).inFile label).render = label ++ ":" ++ toString n ++ ": " ++ r.message := by
  show label ++ ":" ++ toString n ++ ": " ++ "" ++ r.message = _
  rw [String.append_empty]

/-- **A draft rejects the lines that there is a complaint about**, each in its words. -/
theorem rejections_eq_complaints (label : String) (ls : List (List Char)) :
    (Draft.empty.rejections (ls.map directiveOf)).map (fun e => (e.inFile label).render) =
      complaints label ls := by
  rw [Draft.rejections_eq_filterMap, List.zipIdx_map, List.filterMap_map, List.map_filterMap,
    complaints]
  congr 1
  funext ⟨cs, i⟩
  have hstarted : ((ls.map directiveOf).take i).any Directive.isCommand =
      (ls.take i).any headsSegment := by
    rw [← List.map_take, List.any_map]
    exact congrArg (ls.take i).any (funext isCommand_directiveOf)
  show (((directiveOf cs).rejection?
        (false || ((ls.map directiveOf).take i).any Directive.isCommand)).map
          fun r => r.error (0 + i + 1)).map (fun e => (e.inFile label).render) =
      (complaint? ((ls.take i).any headsSegment) cs).map
        fun message => label ++ ":" ++ toString (i + 1) ++ ": " ++ message
  rw [Bool.false_or, hstarted, ← message_rejection?, Option.map_map, Option.map_map]
  congr 1
  funext r
  rw [Function.comp_apply, render_error, Nat.zero_add]
  rfl

/-! ## Segments -/

section

variable {α : Type} (reads : α → Directive)

/-- A spec is cut at its `!` lines into its opening and the bodies of its segments. -/
theorem splitOnP_isCommand (n : Nat) (ls : List α) :
    ls.splitOnP (fun l => (reads l).isCommand) =
      opening reads ls :: (segments reads n ls).map Segment.body := by
  induction ls using command_induction reads generalizing n with
  | nil => rfl
  | command l ls text htext ih =>
    have hl : (reads l).isCommand = true := htext ▸ rfl
    rw [List.splitOnP_cons_eq_if_modifyHead, if_pos hl, ih (n + 1), opening_cons_command htext,
      segments_cons_command htext]
    rfl
  | other l ls hl ih =>
    rw [List.splitOnP_cons_eq_if_modifyHead, if_neg (Bool.not_eq_true _ ▸ hl), ih (n + 1),
      opening_cons hl, segments_cons hl]
    rfl

/-- There is an orphan if a line before the first `!` line is rejected. -/
theorem countP_malformed_orphan? (n : Nat) (ls : List α) :
    (orphan? reads n ls).toList.countP Testcase.malformed =
      if (opening reads ls).any fun l => ((reads l).rejection? false).isSome then 1 else 0 := by
  have hany : ((opening reads ls).any fun l => ((reads l).rejection? false).isSome) = false ↔
      orphan? reads n ls = none := by
    rw [orphan?_eq_none, List.any_eq_false]
    refine forall₂_congr fun l hl => ?_
    have hother : (reads l).isCommand = false := by
      simpa using List.all_eq_true.1 List.all_takeWhile l hl
    cases h : reads l <;> simp_all [Directive.rejection?, Directive.isCommand]
  cases h : orphan? reads n ls with
  | none => rw [hany.2 h]; rfl
  | some tc =>
    have hrejected :
        ((opening reads ls).any fun l => ((reads l).rejection? false).isSome) = true := by
      rw [← Bool.not_eq_false, hany, h]
      exact Option.some_ne_none tc
    rw [hrejected]
    simp [malformed_of_orphan? h]

theorem malformed_testcase (s : Segment α) :
    (s.testcase reads).malformed = s.body.any fun l => ((reads l).rejection? true).isSome := by
  rw [Segment.testcase, List.any_map]
  refine congrArg s.body.any (funext fun l => ?_)
  rw [Directive.isSome_rejection?, Bool.not_true, Bool.false_and, Bool.or_false]
  rfl

end

/-- **A testcase is malformed for each segment with a line that there is a complaint about.** -/
theorem countP_malformed_testcases (ls : List (List Char)) :
    (testcases directiveOf ls).countP Testcase.malformed = spoiledSegments ls := by
  have hsplit : ls.splitOnP headsSegment =
      opening directiveOf ls :: (segments directiveOf 1 ls).map Segment.body := by
    rw [← splitOnP_isCommand]
    exact congrArg (ls.splitOnP ·) (funext fun cs => (isCommand_directiveOf cs).symm)
  rw [spoiledSegments, hsplit, testcases, List.countP_append, countP_malformed_orphan?,
    List.countP_map]
  show _ = _ + ((segments directiveOf 1 ls).map Segment.body).countP _
  rw [List.countP_map]
  simp only [isSome_complaint?, Function.comp_def, malformed_testcase]

/-- Where no segment is spoiled, there is nothing to complain about. -/
theorem complaints_eq_nil (label : String) {ls : List (List Char)} (h : spoiledSegments ls = 0) :
    complaints label ls = [] := by
  rw [← countP_malformed_testcases, List.countP_eq_zero] at h
  obtain ⟨hopening, hfaulty⟩ := forall_malformed_iff.1 fun tc htc => Bool.not_eq_true _ ▸ h tc htc
  have hrejections : Draft.empty.rejections (ls.map directiveOf) = [] :=
    Draft.rejections_eq_nil (.inr ((opensBlank_map directiveOf ls).2 hopening))
      (by simpa using hfaulty)
  rw [← rejections_eq_complaints, hrejections, List.map_nil]

end CommandSpec
