import CommandSpec.Proofs.Report.Alignment
import CommandSpec.Proofs.Text.Integer
import CommandSpec.Proofs.Text.Lines

/-!
# A difference read back

The text of a difference says everything about the two sides. A line of it that begins with a digit
is a row about a printed line: its number, a space, one mark and the line (`Row.ofNumbered?`). The
other lines are rows about expected lines. Whatever the lines of both sides hold, each row is read
back from its line (`Row.read?_render`), because a number ends at the space after it.

**Theorem (`diff_lossless`).** The lines of the text of a difference that begin with a digit give
back the printed lines, numbered from 1. The rows in which both sides agree and those about expected
lines give back the expected lines. So no other two sides have the same text.
-/

namespace CommandSpec

/-- The text of a difference. -/
def diffText (filter : Bool) (actual expected : List String) : String :=
  blockOfLines ((diff filter actual expected).map Row.render)

/-- The line begins with a digit. -/
def beginsWithDigit (line : String) : Bool :=
  line.toList.head?.any Char.isDigit

namespace Row

/-! ## What a row tells -/

/-- The printed line of a row with its number. -/
def printed? : Row → Option (String × Nat)
  | same n text | actual n text | debug n text | extra n text => some (text, n)
  | expected _ | missing _ => none

/-- The expected line of a row. -/
def wanted? : Row → Option String
  | same _ text | expected text | missing text => some text
  | actual .. | debug .. | extra .. => none

/-- The line of a row. -/
def text : Row → String
  | same _ text | actual _ text | expected text | debug _ text | extra _ text | missing text => text

theorem printed?_or_wanted? (row : Row) :
    (∃ n, row.printed? = some (row.text, n)) ∨ row.wanted? = some row.text := by
  cases row <;> simp [printed?, wanted?, text]

theorem filterMap_printed?_facing (line : String × Nat) (e? : Option String) :
    (facing line e?).filterMap printed? = [line] := by
  obtain ⟨a, n⟩ := line
  cases e? with
  | none => rfl
  | some e =>
    by_cases h : a = e
    · subst h
      simp only [facing, if_true]
      rfl
    · simp only [facing, if_neg h]
      rfl

theorem filterMap_wanted?_facing (line : String × Nat) (e? : Option String) :
    (facing line e?).filterMap wanted? = e?.toList := by
  obtain ⟨a, n⟩ := line
  cases e? with
  | none => rfl
  | some e =>
    by_cases h : a = e
    · subst h
      simp only [facing, if_true]
      rfl
    · simp only [facing, if_neg h]
      rfl

/-! ## Reading a row -/

/-- The row about the printed line with number `n` that has the given mark. -/
def ofMark? (n : Nat) (text : String) : Char → Option Row
  | ' ' => some (same n text)
  | '=' => some (actual n text)
  | '~' => some (debug n text)
  | '+' => some (extra n text)
  | _ => none

/-- The row whose line is a number, a space, a mark and a text. -/
def ofNumbered? (line : List Char) : Option Row :=
  match Text.readDigits? (line.takeWhile Char.isDigit), line.dropWhile Char.isDigit with
  | some n, ' ' :: mark :: text => ofMark? n (.ofList text) mark
  | _, _ => none

/-- The row that a line of a difference shows. -/
def read? (line : String) : Option Row :=
  if beginsWithDigit line then ofNumbered? line.toList
  else
    match line.toList with
    | 'e' :: 'x' :: 'p' :: ' ' :: ':' :: text => some (expected (.ofList text))
    | 'e' :: 'x' :: 'p' :: '!' :: ':' :: text => some (missing (.ofList text))
    | _ => none

theorem toList_numbered (n : Nat) (mark text : String) :
    (numbered n mark text).toList = Nat.toDigits 10 n ++ ' ' :: (mark.toList ++ text.toList) := by
  simp [numbered, Nat.toList_repr]

theorem beginsWithDigit_numbered (n : Nat) (mark text : String) :
    beginsWithDigit (numbered n mark text) = true := by
  rw [beginsWithDigit, toList_numbered]
  obtain ⟨d, ds, hds⟩ := List.exists_cons_of_ne_nil (Nat.toDigits_ne_nil (n := n) (b := 10))
  have hd : d ∈ Nat.toDigits 10 n := hds ▸ List.mem_cons_self
  rw [hds]
  exact Text.isDigit_of_mem_toDigits hd

/-- Only the rows about printed lines begin with a digit. -/
theorem beginsWithDigit_render (row : Row) :
    beginsWithDigit row.render = row.printed?.isSome := by
  cases row with
  | same n text | actual n text | debug n text | extra n text =>
    exact beginsWithDigit_numbered n _ text
  | expected text | missing text => simp [render, beginsWithDigit, printed?]

/-- The number of a row ends at the space after it, whatever follows. -/
theorem ofNumbered?_numbered (n : Nat) (mark : Char) (text : String) :
    ofNumbered? (numbered n mark.toString text).toList = ofMark? n text mark := by
  have hdigits : ∀ c ∈ Nat.toDigits 10 n, c.isDigit = true := fun _ => Text.isDigit_of_mem_toDigits
  have hspace : ' '.isDigit = false := by decide
  have hline : (numbered n mark.toString text).toList =
      Nat.toDigits 10 n ++ ' ' :: mark :: text.toList := by
    rw [toList_numbered]
    simp
  have htake : (numbered n mark.toString text).toList.takeWhile Char.isDigit =
      Nat.toDigits 10 n := by
    rw [hline, List.takeWhile_append_of_pos hdigits, List.takeWhile_cons_of_neg (by simp [hspace]),
      List.append_nil]
  have hdrop : (numbered n mark.toString text).toList.dropWhile Char.isDigit =
      ' ' :: mark :: text.toList := by
    rw [hline, List.dropWhile_append_of_pos hdigits, List.dropWhile_cons_of_neg (by simp [hspace])]
  simp only [ofNumbered?, htake, hdrop, Text.readDigits?_toDigits, String.ofList_toList]

/-- **A row is read back from its line.** -/
theorem read?_render (row : Row) : read? row.render = some row := by
  have hnumbered (n : Nat) (mark : Char) (text : String) :
      read? (numbered n mark.toString text) = ofMark? n text mark := by
    rw [read?, if_pos (beginsWithDigit_numbered n _ text), ofNumbered?_numbered]
  cases row with
  | same n text => exact hnumbered n ' ' text
  | actual n text => exact hnumbered n '=' text
  | debug n text => exact hnumbered n '~' text
  | extra n text => exact hnumbered n '+' text
  | expected text | missing text => simp [render, read?, beginsWithDigit]

theorem newline_not_mem_render {row : Row} (h : '\n' ∉ row.text.toList) :
    '\n' ∉ row.render.toList := by
  have hdigits (n : Nat) : '\n' ∉ Nat.toDigits 10 n := fun hmem =>
    absurd (Text.isDigit_of_mem_toDigits hmem) (by decide)
  cases row <;> simp_all [render, toList_numbered, text]

end Row

/-! ## Both sides -/

section

variable (filter : Bool) (n : Nat) (actual expected : List String)

/-- The rows about printed lines are those of all printed lines, in order. -/
theorem filterMap_printed?_diffFrom :
    (diffFrom filter n actual expected).filterMap Row.printed? = actual.zipIdx n := by
  induction actual generalizing n expected with
  | nil =>
    rw [diffFrom_nil, List.filterMap_map]
    exact List.filterMap_eq_nil_iff.2 fun _ _ => rfl
  | cons a as ih =>
    rw [List.zipIdx_cons]
    cases h : isHidden filter a with
    | true =>
      rw [diffFrom_hidden h, List.filterMap_cons, ih]
      rfl
    | false =>
      rw [diffFrom_kept h, List.filterMap_append, Row.filterMap_printed?_facing, ih]
      rfl

/-- The rows about expected lines are those of all expected lines, in order. -/
theorem filterMap_wanted?_diffFrom :
    (diffFrom filter n actual expected).filterMap Row.wanted? = expected := by
  induction actual generalizing n expected with
  | nil =>
    rw [diffFrom_nil, List.filterMap_map]
    exact List.filterMap_some
  | cons a as ih =>
    cases h : isHidden filter a with
    | true =>
      rw [diffFrom_hidden h, List.filterMap_cons, ih]
      rfl
    | false =>
      rw [diffFrom_kept h, List.filterMap_append, Row.filterMap_wanted?_facing, ih]
      cases expected <;> rfl

/-- Every row shows a line of one of the sides. -/
theorem text_of_mem_diffFrom {row : Row} (h : row ∈ diffFrom filter n actual expected) :
    row.text ∈ actual ∨ row.text ∈ expected := by
  rcases row.printed?_or_wanted? with ⟨k, hprinted⟩ | hwanted
  · left
    have hmem : (row.text, k) ∈ actual.zipIdx n := by
      rw [← filterMap_printed?_diffFrom filter n actual expected]
      exact List.mem_filterMap.2 ⟨row, h, hprinted⟩
    exact List.fst_mem_of_mem_zipIdx hmem
  · right
    rw [← filterMap_wanted?_diffFrom filter n actual expected]
    exact List.mem_filterMap.2 ⟨row, h, hwanted⟩

end

/-! ## The text -/

/-- None of the lines holds a newline. -/
def NewlineFree (lines : List String) : Prop :=
  ∀ line ∈ lines, '\n' ∉ line.toList

/-- The printed line, with its number, that a line of a difference shows. -/
def printedLine? (line : String) : Option (String × Nat) :=
  (Row.read? line).bind Row.printed?

/-- The expected line that a line of a difference shows. -/
def wantedLine? (line : String) : Option String :=
  (Row.read? line).bind Row.wanted?

section

variable (filter : Bool) {actual expected : List String}

/-- The lines of the text are those of the rows. -/
theorem linesOfBlock_diffText (hactual : NewlineFree actual) (hexpected : NewlineFree expected) :
    linesOfBlock (diffText filter actual expected) =
      (diff filter actual expected).map Row.render := by
  refine linesOfBlock_blockOfLines fun line hline => ?_
  obtain ⟨row, hrow, rfl⟩ := List.mem_map.1 hline
  refine Row.newline_not_mem_render ?_
  exact (text_of_mem_diffFrom filter 1 actual expected hrow).elim (hactual _) (hexpected _)

theorem printedLines_diffText (hactual : NewlineFree actual) (hexpected : NewlineFree expected) :
    ((linesOfBlock (diffText filter actual expected)).filter beginsWithDigit).map printedLine? =
      (actual.zipIdx 1).map some := by
  have hbegins : beginsWithDigit ∘ Row.render = Option.isSome ∘ Row.printed? :=
    funext Row.beginsWithDigit_render
  have hread : printedLine? ∘ Row.render = Row.printed? := by
    funext row
    simp [printedLine?, Row.read?_render]
  rw [linesOfBlock_diffText filter hactual hexpected, List.filter_map, List.map_map, hbegins, hread,
    ← List.filter_map, ← List.map_filterMap_some_eq_filter_map_isSome]
  exact congrArg _ (filterMap_printed?_diffFrom filter 1 actual expected)

theorem wantedLines_diffText (hactual : NewlineFree actual) (hexpected : NewlineFree expected) :
    (linesOfBlock (diffText filter actual expected)).filterMap wantedLine? = expected := by
  rw [linesOfBlock_diffText filter hactual hexpected, List.filterMap_map]
  have hread : wantedLine? ∘ Row.render = Row.wanted? := by
    funext row
    simp [wantedLine?, Row.read?_render]
  rw [hread]
  exact filterMap_wanted?_diffFrom filter 1 actual expected

end

/-- **A difference is lossless.** The lines of its text are read back: those that begin with a digit
are numbered from 1 and show the printed lines, and those that show expected lines show all of them.
So the text of a difference has one printed and one expected side. -/
theorem diff_lossless (filter : Bool) {actual expected : List String}
    (hactual : NewlineFree actual) (hexpected : NewlineFree expected) :
    let lines := linesOfBlock (diffText filter actual expected)
    (lines.filter beginsWithDigit).map printedLine? = (actual.zipIdx 1).map some ∧
      lines.filterMap wantedLine? = expected ∧
      (∀ (t : Tally) (out : String),
        Report.lines ((diff filter actual expected).map Row.render)
            (⟨t, ⟨out, none⟩⟩ : Report Sink) =
          .ok () ⟨t, ⟨out ++ diffText filter actual expected, none⟩⟩) ∧
      ∀ (filter' : Bool) (actual' expected' : List String), NewlineFree actual' →
        NewlineFree expected' →
        diffText filter' actual' expected' = diffText filter actual expected →
        actual' = actual ∧ expected' = expected := by
  intro lines
  have hprinted := printedLines_diffText filter hactual hexpected
  have hwanted := wantedLines_diffText filter hactual hexpected
  refine ⟨hprinted, hwanted, fun t out => Report.lines_unlimited t out _, ?_⟩
  intro filter' actual' expected' hactual' hexpected' htext
  have hprinted' := printedLines_diffText filter' hactual' hexpected'
  have hwanted' := wantedLines_diffText filter' hactual' hexpected'
  rw [htext] at hprinted' hwanted'
  have hzip : actual'.zipIdx 1 = actual.zipIdx 1 :=
    (List.map_inj_right fun _ _ => Option.some.inj).1 (hprinted'.symm.trans hprinted)
  refine ⟨?_, hwanted'.symm.trans hwanted⟩
  rw [← List.zipIdx_map_fst 1 actual', hzip, List.zipIdx_map_fst]

/-- Both sides hold lines that look like rows. -/
theorem diff_lossless_lookalikes :
    let actual := ["2 +b", "#", "exp :c"]
    let expected := ["2 +b", "exp!:d", ""]
    NewlineFree actual ∧ NewlineFree expected ∧
      diffText true actual expected =
        blockOfLines ["1  2 +b", "2 ~#", "3 =exp :c", "exp :exp!:d", "exp!:"] ∧
      ((linesOfBlock (diffText true actual expected)).filter beginsWithDigit).map printedLine? =
        [some ("2 +b", 1), some ("#", 2), some ("exp :c", 3)] ∧
      (linesOfBlock (diffText true actual expected)).filterMap wantedLine? = expected ∧
      diffText true ["2 +b", "#", "exp :c"] ["2 +b", "exp!:d"] ≠ diffText true actual expected := by
  intro actual expected
  have hactual : NewlineFree actual := by simp [NewlineFree, actual]
  have hexpected : NewlineFree expected := by simp [NewlineFree, expected]
  have hother : NewlineFree ["2 +b", "exp!:d"] := by simp [NewlineFree]
  obtain ⟨hprinted, hwanted, -, hinjective⟩ := diff_lossless true hactual hexpected
  refine ⟨hactual, hexpected, by decide +kernel, hprinted, hwanted, fun htext => ?_⟩
  exact absurd (hinjective true actual _ hactual hother htext).2 (by decide)

end CommandSpec
