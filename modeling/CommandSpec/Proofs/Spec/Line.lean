import CommandSpec.Spec.Directive

/-!
# The two ends of a line

Blanks in front of a line are no part of it. It is closed by a newline, with or without a carriage
return before it, or not at all if it is the last one. A line that has no carriage return of its own
at its end says the same in all three cases (`ofLine_ended`).
-/

namespace CommandSpec

/-! ## Trimming -/

namespace Text

section

variable {blanks : List Char} (h : ∀ c ∈ blanks, isBlank c = true)

include h

theorem trimStart_indented (cs : List Char) : trimStart (blanks ++ cs) = trimStart cs :=
  List.dropWhile_append_of_pos h

theorem trim_indented (cs : List Char) : trim (blanks ++ cs) = trim cs := by
  rw [trim, trimStart_indented h, trim]

theorem trimStart_of_blank : trimStart blanks = [] := by
  simpa [trimStart] using trimStart_indented h []

/-- Blanks behind a text stay there, if there is any text at all. -/
theorem trimStart_append (cs : List Char) :
    trimStart (cs ++ blanks) = if trimStart cs = [] then [] else trimStart cs ++ blanks := by
  rw [trimStart, List.dropWhile_append, ← trimStart, ← trimStart, trimStart_of_blank h]
  simp only [List.isEmpty_iff]

theorem trimEnd_append (cs : List Char) : trimEnd (cs ++ blanks) = trimEnd cs := by
  have hreverse : ∀ c ∈ blanks.reverse, isBlank c = true := fun c hc => h c (List.mem_reverse.1 hc)
  rw [trimEnd, List.reverse_append, List.dropWhile_append_of_pos hreverse, trimEnd]

theorem trim_append (cs : List Char) : trim (cs ++ blanks) = trim cs := by
  rw [trim, trimStart_append h, trim]
  split
  · rename_i hnil
    rw [hnil]
  · rw [trimEnd_append h]

end

/-- What is left of a text does not start with a blank. -/
theorem isBlank_of_trimStart {c : Char} {cs rest : List Char} (h : trimStart cs = c :: rest) :
    isBlank c = false := by
  have hhead := List.head?_dropWhile_not isBlank cs
  rw [← trimStart, h] at hhead
  exact hhead

/-- What is left of a text ends as the text does. -/
theorem getLast?_trimStart {cs : List Char} (h : trimStart cs ≠ []) :
    (trimStart cs).getLast? = cs.getLast? := by
  obtain ⟨dropped, heq⟩ : ∃ dropped, dropped ++ trimStart cs = cs := List.dropWhile_suffix isBlank
  have hlast : (dropped ++ trimStart cs).getLast? = _ := List.getLast?_append
  rw [heq, Option.or_of_isSome (List.getLast?_isSome.2 h)] at hlast
  exact hlast.symm

end Text

/-! ## Terminators -/

/-- How a line is closed. -/
inductive LineEnd where
  /-- By a newline. -/
  | newline
  /-- By a carriage return and a newline. -/
  | returnNewline
  deriving DecidableEq, Repr

/-- The characters that close a line. -/
def LineEnd.chars : LineEnd → List Char
  | newline => ['\n']
  | returnNewline => ['\r', '\n']

theorem LineEnd.isBlank_of_mem {e : LineEnd} : ∀ c ∈ e.chars, isBlank c = true := by
  have hall : e.chars.all isBlank = true := by
    cases e <;> decide
  exact List.all_eq_true.1 hall

namespace Directive

theorem dropFinal_append (c : Char) (cs : List Char) : dropFinal c (cs ++ [c]) = cs := by
  rw [dropFinal, if_pos List.getLast?_concat, List.dropLast_concat]

theorem dropFinal_of_ne {c : Char} {cs : List Char} (h : cs.getLast? ≠ some c) :
    dropFinal c cs = cs :=
  if_neg h

theorem dropTerminator_append (cs : List Char) : dropTerminator (cs ++ ['\r', '\n']) = cs := by
  have hsplit : cs ++ ['\r', '\n'] = (cs ++ ['\r']) ++ ['\n'] := by simp
  rw [hsplit, dropTerminator, dropFinal_append, dropFinal_append]

/-- A carriage return that stands alone is dropped like one before a newline. -/
theorem dropTerminator_return (cs : List Char) : dropTerminator (cs ++ ['\r']) = cs := by
  have hlast : (cs ++ ['\r']).getLast? ≠ some '\n' := by simp
  rw [dropTerminator, dropFinal_of_ne hlast, dropFinal_append]

theorem dropTerminator_of_ne {cs : List Char} (hn : cs.getLast? ≠ some '\n')
    (hr : cs.getLast? ≠ some '\r') : dropTerminator cs = cs := by
  rw [dropTerminator, dropFinal_of_ne hn, dropFinal_of_ne hr]

/-- Either terminator is dropped, and the line before it is kept. -/
theorem dropTerminator_ended {cs : List Char} (hr : cs.getLast? ≠ some '\r') (e : LineEnd) :
    dropTerminator (cs ++ e.chars) = cs := by
  cases e with
  | newline => rw [LineEnd.chars, dropTerminator, dropFinal_append, dropFinal_of_ne hr]
  | returnNewline => exact dropTerminator_append cs

/-- A terminator does not start with the first character of the line. -/
theorem head?_dropTerminator {c : Char} (hn : c ≠ '\n') (hr : c ≠ '\r') (rest : List Char) :
    (dropTerminator (c :: rest)).head? = some c := by
  have hdrop {d : Char} (hd : c ≠ d) (rest : List Char) :
      ∃ rest', dropFinal d (c :: rest) = c :: rest' := by
    cases rest with
    | nil => exact ⟨[], dropFinal_of_ne (by simpa using hd)⟩
    | cons b rest =>
      rw [dropFinal]
      split
      · exact ⟨_, List.dropLast_cons_cons⟩
      · exact ⟨_, rfl⟩
  obtain ⟨rest', hrest'⟩ := hdrop hn rest
  obtain ⟨rest'', hrest''⟩ := hdrop hr rest'
  rw [dropTerminator, hrest', hrest'', List.head?_cons]

/-- What a terminator consists of is blank. -/
theorem trim_dropTerminator (cs : List Char) : Text.trim (dropTerminator cs) = Text.trim cs := by
  have htrim (c : Char) (hc : isBlank c = true) (cs : List Char) :
      Text.trim (dropFinal c cs) = Text.trim cs := by
    rw [dropFinal]
    split
    · rename_i hlast
      obtain ⟨init, rfl⟩ := List.getLast?_eq_some_iff.1 hlast
      rw [List.dropLast_concat, Text.trim_append (by simpa using hc)]
    · rfl
  rw [dropTerminator, htrim '\r' (by decide), htrim '\n' (by decide)]

/-! ## Classification -/

/-- The characters that say what a line is. -/
def markers : List Char := ['!', '<', '>', '/', '?', '#']

theorem ofLine_unknown {c : Char} (hc : c ∉ markers) (hn : c ≠ '\n') (hr : c ≠ '\r')
    (rest : List Char) :
    ofLine (c :: rest) = unknown (.ofList (dropTerminator (c :: rest))) := by
  unfold ofLine
  split <;> simp_all [markers]

/-- A line says the same as another one with the same first character, if both say the same without
their terminators. -/
theorem ofLine_congr {c : Char} {rest rest' : List Char}
    (h : dropTerminator rest = dropTerminator rest')
    (h' : dropTerminator (c :: rest) = dropTerminator (c :: rest')) :
    ofLine (c :: rest) = ofLine (c :: rest') := by
  unfold ofLine
  split <;> simp_all

/-- **A line says the same however it is closed.** -/
theorem ofLine_ended {cs : List Char} (hcs : cs ≠ []) (hn : cs.getLast? ≠ some '\n')
    (hr : cs.getLast? ≠ some '\r') (e : LineEnd) : ofLine (cs ++ e.chars) = ofLine cs := by
  obtain ⟨c, rest, rfl⟩ := List.exists_cons_of_ne_nil hcs
  have hrest (d : Char) (hd : (c :: rest).getLast? ≠ some d) : rest.getLast? ≠ some d := by
    intro hlast
    rw [List.getLast?_cons, hlast] at hd
    exact hd rfl
  have htail : dropTerminator (rest ++ e.chars) = dropTerminator rest := by
    rw [dropTerminator_ended (hrest _ hr), dropTerminator_of_ne (hrest _ hn) (hrest _ hr)]
  have hwhole : dropTerminator (c :: rest ++ e.chars) = dropTerminator (c :: rest) := by
    rw [dropTerminator_ended hr, dropTerminator_of_ne hn hr]
  rw [List.cons_append] at hwhole ⊢
  exact ofLine_congr htail hwhole

end Directive

end CommandSpec
