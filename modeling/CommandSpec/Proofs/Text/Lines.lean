import CommandSpec.Text.Lines

/-!
# Lines of bytes

Bytes that arrive in pieces are cut into the same lines as their concatenation: the closed lines of
a piece are lines of the whole, and the bytes after them begin the next line
(`physicalLines_append`). Bytes that are read from a source are cut in addition where a read yields
nothing: the source has ended for now, and what is there is a line (`linesRead`).
-/

namespace CommandSpec.Text

/-! ## Cutting -/

theorem ne_nil_of_mem_cutAfter {α : Type} {isEnd : α → Bool} {as piece : List α}
    (h : piece ∈ cutAfter isEnd as) : piece ≠ [] := by
  induction as generalizing piece with
  | nil => simp [cutAfter] at h
  | cons a as ih =>
    rw [cutAfter] at h
    split at h
    · rcases List.mem_cons.1 h with rfl | h
      · exact List.cons_ne_nil _ _
      · exact ih h
    · split at h
      · rw [List.mem_singleton.1 h]
        exact List.cons_ne_nil _ _
      · rename_i heq
        rcases List.mem_cons.1 h with rfl | h
        · exact List.cons_ne_nil _ _
        · exact ih (heq ▸ List.mem_cons_of_mem _ h)

/-- A sequence without an end, closed by one, is the first piece. -/
theorem cutAfter_append_cons {α : Type} {isEnd : α → Bool} {as : List α} {a : α}
    (has : ∀ x ∈ as, isEnd x = false) (ha : isEnd a = true) (rest : List α) :
    cutAfter isEnd (as ++ a :: rest) = (as ++ [a]) :: cutAfter isEnd rest := by
  induction as with
  | nil => simp [cutAfter, ha]
  | cons x as ih =>
    rw [List.cons_append, cutAfter, has x List.mem_cons_self,
      ih fun y hy => has y (List.mem_cons_of_mem _ hy)]
    simp

@[simp] theorem physicalLines_nil : physicalLines [] = [] := rfl

theorem physicalLines_newline (bytes : List UInt8) :
    physicalLines (newline :: bytes) = [newline] :: physicalLines bytes := by
  simp [physicalLines, cutAfter]

theorem physicalLines_cons {b : UInt8} (hb : b ≠ newline) (bytes : List UInt8) :
    physicalLines (b :: bytes) =
      (b :: (physicalLines bytes).headD []) :: (physicalLines bytes).tail := by
  rw [physicalLines, cutAfter, if_neg (by simpa using hb), ← physicalLines]
  cases physicalLines bytes <;> rfl

theorem splitClosed_newline (bytes : List UInt8) :
    splitClosed (newline :: bytes) =
      ([newline] :: (splitClosed bytes).1, (splitClosed bytes).2) := by
  simp only [splitClosed, physicalLines_newline]
  cases h : physicalLines bytes with
  | nil => rfl
  | cons l ls =>
    rw [List.getLast?_cons_cons]
    cases hlast : (l :: ls).getLast? with
    | none => simp at hlast
    | some last =>
      by_cases hend : last.getLast? = some newline <;> simp [hend]

/-- A byte that ends no line begins the first closed line or, if there is none, the bytes left over.
-/
theorem splitClosed_cons {b : UInt8} (hb : b ≠ newline) (bytes : List UInt8) :
    splitClosed (b :: bytes) =
      match splitClosed bytes with
      | ([], rest) => ([], b :: rest)
      | (l :: ls, rest) => ((b :: l) :: ls, rest) := by
  simp only [splitClosed, physicalLines_cons hb]
  cases h : physicalLines bytes with
  | nil => simp [hb]
  | cons l ls =>
    have hmem : l ∈ cutAfter (· == newline) bytes := by
      rw [← physicalLines, h]
      exact List.mem_cons_self
    have hl : l ≠ [] := ne_nil_of_mem_cutAfter hmem
    obtain ⟨x, xs, rfl⟩ := List.exists_cons_of_ne_nil hl
    cases ls with
    | nil =>
      by_cases hend : (x :: xs).getLast? = some newline <;> simp [hend]
    | cons m ms =>
      simp only [List.headD_cons, List.tail_cons, List.getLast?_cons_cons]
      cases hlast : (m :: ms).getLast? with
      | none => simp at hlast
      | some last =>
        by_cases hend : last.getLast? = some newline <;> simp [hend]

/-- **Bytes in pieces.** The closed lines of some bytes are the first lines of whatever the bytes
begin, and the bytes after them begin the rest. -/
theorem physicalLines_append (bytes more : List UInt8) :
    physicalLines (bytes ++ more) =
      (splitClosed bytes).1 ++ physicalLines ((splitClosed bytes).2 ++ more) := by
  induction bytes with
  | nil => rfl
  | cons b bytes ih =>
    by_cases hb : b = newline
    · subst hb
      rw [List.cons_append, physicalLines_newline, splitClosed_newline, ih, List.cons_append]
    · rw [List.cons_append, physicalLines_cons hb, splitClosed_cons hb, ih]
      split
      · rename_i rest heq
        rw [heq, List.nil_append, List.cons_append, physicalLines_cons hb, List.nil_append]
      · rename_i l ls rest heq
        simp [heq]

/-- Every newline closes a line. -/
theorem length_splitClosed (bytes : List UInt8) :
    (splitClosed bytes).1.length = bytes.count newline := by
  induction bytes with
  | nil => rfl
  | cons b bytes ih =>
    by_cases hb : b = newline
    · subst hb
      rw [splitClosed_newline, List.length_cons, ih, List.count_cons_self]
    · rw [List.count_cons_of_ne hb, ← ih, splitClosed_cons hb]
      split
      · rename_i rest heq
        rw [heq]
      · rename_i l ls rest heq
        rw [heq, List.length_cons, List.length_cons]

/-- The lines whose newlines are among the first `n` bytes. -/
theorem take_physicalLines (bytes : List UInt8) (n : Nat) :
    (physicalLines bytes).take ((bytes.take n).count newline) = (splitClosed (bytes.take n)).1 := by
  calc
    (physicalLines bytes).take ((bytes.take n).count newline) =
        (physicalLines (bytes.take n ++ bytes.drop n)).take
          (splitClosed (bytes.take n)).1.length := by
      rw [List.take_append_drop, length_splitClosed]
    _ = (splitClosed (bytes.take n)).1 := by rw [physicalLines_append, List.take_left]

/-- The bytes between newlines. What follows the last newline is a line only if it is not empty. -/
def rawLines : List UInt8 → List (List UInt8)
  | [] => []
  | b :: bytes =>
    if b = newline then [] :: rawLines bytes
    else (b :: (rawLines bytes).headD []) :: (rawLines bytes).tail

/-- A sequence has no `sep`, or it begins with a piece that ends at one. -/
theorem separated_induction {α : Type} [DecidableEq α] (sep : α) {motive : List α → Prop}
    (last : ∀ as, sep ∉ as → motive as)
    (closed : ∀ as rest, sep ∉ as → motive rest → motive (as ++ sep :: rest))
    (as : List α) : motive as := by
  by_cases h : sep ∈ as
  · obtain ⟨piece, rest, heq, hpiece⟩ := List.eq_append_cons_of_mem h
    have hlength : rest.length < as.length := by
      rw [heq, List.length_append, List.length_cons]
      omega
    rw [heq]
    exact closed piece rest hpiece (separated_induction sep last closed rest)
  · exact last as h
termination_by as.length

theorem rawLines_append_newline {line : List UInt8} (h : newline ∉ line) (rest : List UInt8) :
    rawLines (line ++ newline :: rest) = line :: rawLines rest := by
  induction line with
  | nil => simp [rawLines]
  | cons b line ih =>
    rw [List.mem_cons, not_or] at h
    rw [List.cons_append, rawLines, if_neg (Ne.symm h.1), ih h.2]
    rfl

theorem rawLines_of_not_mem {line : List UInt8} (h : newline ∉ line) :
    rawLines line = if line = [] then [] else [line] := by
  induction line with
  | nil => rfl
  | cons b line ih =>
    rw [List.mem_cons, not_or] at h
    rw [rawLines, if_neg (Ne.symm h.1), ih h.2, if_neg (List.cons_ne_nil _ _)]
    by_cases hnil : line = [] <;> simp [hnil]

theorem newline_not_mem_rawLines {bytes line : List UInt8} (h : line ∈ rawLines bytes) :
    newline ∉ line := by
  induction bytes using separated_induction newline with
  | last bytes hbytes =>
    rw [rawLines_of_not_mem hbytes] at h
    split at h
    · cases h
    · rwa [List.mem_singleton.1 h]
  | closed first rest hfirst ih =>
    rw [rawLines_append_newline hfirst] at h
    rcases List.mem_cons.1 h with rfl | h
    · exact hfirst
    · exact ih h

/-- The lines of a text as they are read back from it. -/
theorem lines_append_newline {cs : List Char} (h : '\n' ∉ cs) (rest : List Char) :
    lines (cs ++ '\n' :: rest) = cs :: lines rest := by
  induction cs with
  | nil => simp [lines]
  | cons c cs ih =>
    rw [List.mem_cons, not_or] at h
    rw [List.cons_append, lines, if_neg (Ne.symm h.1), ih h.2]

theorem lines_of_not_mem {cs : List Char} (h : '\n' ∉ cs) :
    lines cs = if cs = [] then [] else [cs] := by
  induction cs with
  | nil => rfl
  | cons c cs ih =>
    rw [List.mem_cons, not_or] at h
    rw [lines, if_neg (Ne.symm h.1), ih h.2, if_neg (List.cons_ne_nil _ _)]
    by_cases hnil : cs = [] <;> simp [hnil]

/-- **A block gives back its lines**, if none of them holds a newline. -/
theorem lines_block {ls : List (List Char)} (h : ∀ l ∈ ls, '\n' ∉ l) : lines (block ls) = ls := by
  induction ls with
  | nil => rfl
  | cons l ls ih =>
    rw [List.forall_mem_cons] at h
    have hblock : block (l :: ls) = l ++ '\n' :: block ls := by simp [block]
    rw [hblock, lines_append_newline h.1, ih h.2]

theorem physicalLines_append_newline {line : List UInt8} (h : newline ∉ line) (rest : List UInt8) :
    physicalLines (line ++ newline :: rest) = (line ++ [newline]) :: physicalLines rest := by
  have hline : ∀ b ∈ line, (b == newline) = false := fun b hb =>
    beq_false_of_ne fun hnewline => h (hnewline ▸ hb)
  rw [physicalLines, cutAfter_append_cons hline (beq_self_eq_true newline), ← physicalLines]

theorem exists_physicalLines {bytes : List UInt8} (h : bytes ≠ []) :
    ∃ line ls, physicalLines bytes = line :: ls := by
  obtain ⟨b, bytes, rfl⟩ := List.exists_cons_of_ne_nil h
  by_cases hb : b = newline
  · exact ⟨_, _, hb ▸ physicalLines_newline bytes⟩
  · exact ⟨_, _, physicalLines_cons hb bytes⟩

/-- What is put in front of bytes is put in front of their first line. -/
theorem physicalLines_append_of_not_mem {indent bytes line : List UInt8} {ls : List (List UInt8)}
    (hindent : newline ∉ indent) (h : physicalLines bytes = line :: ls) :
    physicalLines (indent ++ bytes) = (indent ++ line) :: ls := by
  induction indent with
  | nil => exact h
  | cons b indent ih =>
    rw [List.mem_cons, not_or] at hindent
    rw [List.cons_append, physicalLines_cons (Ne.symm hindent.1), ih hindent.2]
    rfl

theorem physicalLines_of_not_mem {line : List UInt8} (h : newline ∉ line) :
    physicalLines line = if line = [] then [] else [line] := by
  induction line with
  | nil => rfl
  | cons b line ih =>
    rw [List.mem_cons, not_or] at h
    rw [physicalLines_cons (Ne.symm h.1), ih h.2, if_neg (List.cons_ne_nil _ _)]
    by_cases hnil : line = [] <;> simp [hnil]

/-- Lines that are each closed by a newline are the physical lines of their concatenation. -/
theorem physicalLines_flatMap {ls : List (List UInt8)} (h : ∀ line ∈ ls, newline ∉ line) :
    physicalLines (ls.flatMap (· ++ [newline])) = ls.map (· ++ [newline]) := by
  induction ls with
  | nil => rfl
  | cons line ls ih =>
    rw [List.forall_mem_cons] at h
    rw [List.flatMap_cons, List.append_assoc, List.singleton_append,
      physicalLines_append_newline h.1, ih h.2, List.map_cons]

/-- After bytes that end with a newline, lines start afresh. -/
theorem physicalLines_append_of_closed {bytes : List UInt8}
    (h : bytes = [] ∨ bytes.getLast? = some newline) (more : List UInt8) :
    physicalLines (bytes ++ more) = physicalLines bytes ++ physicalLines more := by
  induction bytes using separated_induction newline with
  | last line hline =>
    rcases h with rfl | hlast
    · rfl
    · exact absurd (List.mem_of_getLast? hlast) hline
  | closed line rest hline ih =>
    have hrest : rest = [] ∨ rest.getLast? = some newline := by
      cases rest with
      | nil => exact .inl rfl
      | cons b rest => simpa [List.getLast?_append, List.getLast?_cons_cons] using h
    rw [List.append_assoc, List.cons_append, physicalLines_append_newline hline,
      physicalLines_append_newline hline, ih hrest, List.cons_append]

/-! ## Bytes that are read piece by piece -/

/-- The lines of the bytes at hand and of what is read after them. What a read yields is appended,
and a read that yields nothing ends the line. -/
def linesRead : (bytes : List UInt8) → (reads : List (List UInt8)) → List (List UInt8)
  | bytes, [] => physicalLines bytes
  | bytes, [] :: reads => physicalLines bytes ++ linesRead [] reads
  | bytes, (b :: more) :: reads => linesRead (bytes ++ b :: more) reads

/-- The last read found the end: it yielded nothing where a line would begin. -/
def FoundEnd : (bytes : List UInt8) → (reads : List (List UInt8)) → Prop
  | _, [] => False
  | bytes, [] :: reads =>
    (bytes = [] ∨ bytes.getLast? = some newline) ∧ reads = [] ∨ FoundEnd [] reads
  | bytes, (b :: more) :: reads => FoundEnd (bytes ++ b :: more) reads

/-- The reads are all that could be asked for, or the last of them found the end. -/
def Exhausted (refills : Nat) (bytes : List UInt8) (reads : List (List UInt8)) : Prop :=
  reads.length = refills ∨ FoundEnd bytes reads

/-- Whether a read finds the end depends only on whether a line is open. -/
theorem FoundEnd.mono {bytes bytes' : List UInt8} {reads : List (List UInt8)}
    (h : FoundEnd bytes reads)
    (hopen : bytes = [] ∨ bytes.getLast? = some newline →
      bytes' = [] ∨ bytes'.getLast? = some newline) : FoundEnd bytes' reads := by
  induction reads generalizing bytes bytes' with
  | nil => exact h
  | cons read reads ih =>
    cases read with
    | nil => exact h.imp_left fun ⟨hbytes, hreads⟩ => ⟨hopen hbytes, hreads⟩
    | cons b more =>
      rw [FoundEnd] at h ⊢
      refine ih h fun hbytes => .inr ?_
      simpa [List.getLast?_append, List.getLast?_cons] using hbytes

/-- One more read comes before those that are left to be asked for. -/
theorem Exhausted.again {refills : Nat} {bytes bytes' read : List UInt8}
    {reads : List (List UInt8)} (h : Exhausted refills bytes reads)
    (hend : FoundEnd bytes reads → FoundEnd bytes' (read :: reads)) :
    Exhausted (refills + 1) bytes' (read :: reads) :=
  h.imp (congrArg (· + 1)) hend

end CommandSpec.Text

namespace CommandSpec

theorem linesOfBlock_blockOfLines {ls : List String} (h : ∀ l ∈ ls, '\n' ∉ l.toList) :
    linesOfBlock (blockOfLines ls) = ls := by
  have hls : ∀ cs ∈ ls.map String.toList, '\n' ∉ cs := by simpa using h
  rw [linesOfBlock, blockOfLines, String.toList_ofList, Text.lines_block hls, List.map_map]
  simp [Function.comp_def]

end CommandSpec
