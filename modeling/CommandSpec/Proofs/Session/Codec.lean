import CommandSpec.Proofs.Text.Lines
import CommandSpec.Proofs.Text.Utf8
import CommandSpec.Session.Executor

/-!
# Blocks and lines

Lines are written to a command as a block and read from it as a block. A block gives back its
lines, whatever they are, as long as none of them holds a newline. A text gives back itself, except
that a last line that is not closed is closed: reading the lines of a text forgets whether its last
newline was there, and nothing else.

**Theorem (`codec_laws`).** `linesOfBlock` is a left inverse of `blockOfLines` on lines without
newlines, `blockOfLines` after `linesOfBlock` closes the last line (`closeBlock`), and two texts
have the same lines if and only if they agree when both are closed. So a command whose process
writes its input to its standard output has the lines that it was given as lines of standard output.

The laws are proved by cutting a text at its newlines. The last one needs in addition that a block
survives its way through a process as bytes (`Utf8.decode_encode`).
-/

namespace CommandSpec

namespace Text

/-! ## The final newline -/

/-- A text with the newline that closes its last line, if that line is open. -/
def close (cs : List Char) : List Char :=
  if cs = [] ∨ cs.getLast? = some '\n' then cs else cs ++ ['\n']

theorem close_of_not_mem {cs : List Char} (h : '\n' ∉ cs) (hcs : cs ≠ []) :
    close cs = cs ++ ['\n'] := by
  have hlast : cs.getLast? ≠ some '\n' := fun hlast => h (List.mem_of_getLast? hlast)
  rw [close, if_neg (not_or.2 ⟨hcs, hlast⟩)]

/-- What precedes a newline has no say in what is added at the end. -/
theorem close_append_newline (cs rest : List Char) :
    close (cs ++ '\n' :: rest) = cs ++ '\n' :: close rest := by
  cases rest with
  | nil => simp [close]
  | cons c rest =>
    have hlast : (cs ++ '\n' :: c :: rest).getLast? = (c :: rest).getLast? := by
      rw [List.getLast?_append, List.getLast?_cons_cons, List.getLast?_cons, Option.some_or]
    rw [close, close, hlast]
    by_cases h : (c :: rest).getLast? = some '\n' <;> simp [h]

/-! ## A text and its lines -/

theorem newline_not_mem_lines {cs line : List Char} (h : line ∈ lines cs) : '\n' ∉ line := by
  induction cs using separated_induction '\n' with
  | last cs hcs =>
    rw [lines_of_not_mem hcs] at h
    split at h
    · cases h
    · rwa [List.mem_singleton.1 h]
  | closed first rest hfirst ih =>
    rw [lines_append_newline hfirst] at h
    rcases List.mem_cons.1 h with rfl | h
    · exact hfirst
    · exact ih h

/-- **The lines of a text give the text back**, with its last line closed. -/
theorem block_lines (cs : List Char) : block (lines cs) = close cs := by
  induction cs using separated_induction '\n' with
  | last cs hcs =>
    rw [lines_of_not_mem hcs]
    by_cases hnil : cs = []
    · rw [if_pos hnil, hnil]
      rfl
    · rw [if_neg hnil, close_of_not_mem hcs hnil]
      simp [block]
  | closed first rest hfirst ih =>
    rw [lines_append_newline hfirst, close_append_newline, ← ih]
    simp [block]

/-- The lines of a text are the fragments between its newlines, without the empty one that a newline
at the end leaves. -/
theorem lines_eq_splitOn (cs : List Char) :
    lines cs =
      if (cs.splitOn '\n').getLast? = some [] then (cs.splitOn '\n').dropLast
      else cs.splitOn '\n' := by
  induction cs using separated_induction '\n' with
  | last cs hcs =>
    rw [lines_of_not_mem hcs, List.splitOn_eq_singleton hcs]
    by_cases hnil : cs = [] <;> simp [hnil]
  | closed first rest hfirst ih =>
    obtain ⟨fragment, fragments, heq⟩ :=
      List.exists_cons_of_ne_nil (List.splitOn_ne_nil '\n' rest)
    rw [lines_append_newline hfirst, List.splitOn_append_cons_self,
      List.splitOn_eq_singleton hfirst, ih, heq, List.singleton_append, List.getLast?_cons_cons]
    split <;> rfl

end Text

/-- A text with the newline that closes its last line, if that line is open. -/
def closeBlock (text : String) : String :=
  if text = "" ∨ text.toList.getLast? = some '\n' then text else text ++ "\n"

theorem toList_closeBlock (text : String) : (closeBlock text).toList = Text.close text.toList := by
  have hempty : text = "" ↔ text.toList = [] := String.toList_eq_nil_iff.symm
  rw [closeBlock, Text.close]
  simp only [hempty]
  split
  · rfl
  · rw [String.toList_append]
    rfl

theorem newline_not_mem_linesOfBlock {text line : String} (h : line ∈ linesOfBlock text) :
    '\n' ∉ line.toList := by
  obtain ⟨cs, hcs, rfl⟩ := List.mem_map.1 h
  rw [String.toList_ofList]
  exact Text.newline_not_mem_lines hcs

theorem blockOfLines_linesOfBlock (text : String) :
    blockOfLines (linesOfBlock text) = closeBlock text := by
  have hlines : (linesOfBlock text).map String.toList = Text.lines text.toList := by
    rw [linesOfBlock, List.map_map]
    simp [Function.comp_def]
  rw [blockOfLines, hlines, Text.block_lines, ← toList_closeBlock, String.ofList_toList]

/-- Closing the last line changes no line. -/
theorem linesOfBlock_closeBlock (text : String) :
    linesOfBlock (closeBlock text) = linesOfBlock text := by
  rw [← blockOfLines_linesOfBlock,
    linesOfBlock_blockOfLines fun _ h => newline_not_mem_linesOfBlock h]

/-- The lines of a text are all of it but the newline at its end. -/
theorem linesOfBlock_eq_iff (text text' : String) :
    linesOfBlock text = linesOfBlock text' ↔ closeBlock text = closeBlock text' := by
  constructor
  · intro h
    rw [← blockOfLines_linesOfBlock, h, blockOfLines_linesOfBlock]
  · intro h
    rw [← linesOfBlock_closeBlock, h, linesOfBlock_closeBlock]

/-! ## Through a process -/

section

variable {σ : Type} {process : String → List UInt8 → EStateM RunError σ Output} {command : String}
  {stdin : List String} {s s' : σ} {output : Output}

theorem executeProcess_of_ok
    (h : process command (Utf8.encode (blockOfLines stdin).toList) s = .ok output s') :
    executeProcess process command stdin s =
      .ok (.ofBytes output.exitStatus output.stdout output.stderr) s' := by
  show EStateM.bind _ _ s = _
  rw [EStateM.bind, h]
  rfl

/-- The lines that a process reads, as it would write them. -/
theorem linesOfBlock_decode_encode (hstdin : ∀ line ∈ stdin, '\n' ∉ line.toList) :
    linesOfBlock (.ofList (Utf8.decode (Utf8.encode (blockOfLines stdin).toList))) = stdin := by
  rw [Utf8.decode_encode, String.ofList_toList, linesOfBlock_blockOfLines hstdin]

/-- **A process that copies its input** gives back the lines that the command was given. -/
theorem executeProcess_of_copied (hstdin : ∀ line ∈ stdin, '\n' ∉ line.toList)
    (hprocess : process command (Utf8.encode (blockOfLines stdin).toList) s = .ok output s')
    (hcopied : output.stdout = Utf8.encode (blockOfLines stdin).toList) :
    executeProcess process command stdin s =
      .ok ⟨output.exitStatus, stdin, linesOfBlock (.ofList (Utf8.decode output.stderr))⟩ s' := by
  rw [executeProcess_of_ok hprocess, Execution.ofBytes, hcopied, linesOfBlock_decode_encode hstdin]

end

/-! ## The laws -/

/-- **The codec laws.** Lines are read back from their block, a text from its lines except for a
final newline, and texts that differ in more differ in their lines. A command whose process copies
its input has the lines that it was given as its lines of standard output. -/
theorem codec_laws :
    (∀ ls : List String, (∀ line ∈ ls, '\n' ∉ line.toList) →
      linesOfBlock (blockOfLines ls) = ls) ∧
    (∀ text : String, (∀ line ∈ linesOfBlock text, '\n' ∉ line.toList) ∧
      blockOfLines (linesOfBlock text) =
        if text = "" ∨ text.toList.getLast? = some '\n' then text else text ++ "\n") ∧
    (∀ text text' : String,
      linesOfBlock text = linesOfBlock text' ↔ closeBlock text = closeBlock text') ∧
    ∀ {σ : Type} (process : String → List UInt8 → EStateM RunError σ Output) (command : String)
      (stdin : List String) (s s' : σ) (output : Output),
      (∀ line ∈ stdin, '\n' ∉ line.toList) →
      process command (Utf8.encode (blockOfLines stdin).toList) s = .ok output s' →
      output.stdout = Utf8.encode (blockOfLines stdin).toList →
      executeProcess process command stdin s =
        .ok ⟨output.exitStatus, stdin, linesOfBlock (.ofList (Utf8.decode output.stderr))⟩ s' :=
  ⟨fun _ hls => linesOfBlock_blockOfLines hls,
    fun text => ⟨fun _ hline => newline_not_mem_linesOfBlock hline, blockOfLines_linesOfBlock text⟩,
    linesOfBlock_eq_iff,
    fun _ _ _ _ _ _ hstdin hprocess hcopied => executeProcess_of_copied hstdin hprocess hcopied⟩

/-- A process that writes its input to both of its channels and counts how often it was run. -/
def teeing (_command : String) (input : List UInt8) : EStateM RunError Nat Output := fun n =>
  .ok ⟨0, input, input⟩ (n + 1)

/-- Empty lines at the end, no lines at all, a last line that is not closed, and a command that is
fed lines with blanks and characters of several bytes. -/
theorem codec_laws_teeing :
    linesOfBlock (blockOfLines ["a", "", ""]) = ["a", "", ""] ∧
    blockOfLines (linesOfBlock "") = "" ∧
    blockOfLines (linesOfBlock "a\n\n") = "a\n\n" ∧
    blockOfLines (linesOfBlock "a\nb") = "a\nb\n" ∧
    linesOfBlock "a\nb" = linesOfBlock "a\nb\n" ∧
    linesOfBlock "a" ≠ linesOfBlock "a\n\n" ∧
    executeProcess teeing "tee /dev/stderr" [" é\t", "", "\r"] 4 =
      .ok ⟨0, [" é\t", "", "\r"], [" é\t", "", "\r"]⟩ 5 := by
  obtain ⟨hblock, htext, hsame, hprocess⟩ := codec_laws
  refine ⟨hblock ["a", "", ""] (by decide), (htext "").2.trans (by decide),
    (htext "a\n\n").2.trans (by decide), (htext "a\nb").2.trans (by decide),
    (hsame "a\nb" "a\nb\n").2 (by decide), mt (hsame "a" "a\n\n").1 (by decide), ?_⟩
  have hlines : ∀ line ∈ [" é\t", "", "\r"], '\n' ∉ line.toList := by decide
  have hrun := hprocess teeing "tee /dev/stderr" [" é\t", "", "\r"] 4 5 ⟨0, _, _⟩ hlines rfl rfl
  rw [hrun, linesOfBlock_decode_encode hlines]

end CommandSpec
