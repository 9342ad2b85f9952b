import CommandSpec.Proofs.Spec.Line
import CommandSpec.Proofs.Text.Integer

/-!
# What a line says

The directive of a line follows from the text behind its marker.

**Theorem (`classify_status`).** A `?` line sets an exit status exactly if its text, less the blanks
around it, denotes an integer of 32 bits, and then it sets that integer. Any other `?` line is
rejected with its text, unless that ends with a carriage return and no newline follows: then the
carriage return is lost.

**Theorem (`classify_content`).** The text of a content line is all of it but one final carriage
return. With a carriage return and a newline behind it every text is kept as it stands.

So a line that is not closed cannot hold a carriage return at its end: that is taken for half a
terminator (`classify_open_status`, `classify_open_return`).
-/

namespace CommandSpec.Directive

/-- The marker is the first character. -/
theorem classify_marked (c : Char) (s : String) :
    classify (c.toString ++ s) = ofLine (c :: s.toList) := by
  rw [classify, String.toList_append, Char.toString, String.toList_singleton, List.singleton_append]

/-! ## Exit statuses -/

/-- The text, less the blanks around it, denotes an integer of 32 bits. -/
def Denotes (r : String) (n : Int) : Prop :=
  Text.Numeral (Text.trim r.toList) n ∧ -2 ^ 31 ≤ n ∧ n ≤ 2 ^ 31 - 1

/-- What stands on a line before its terminator, which is a carriage return and a newline, a newline
alone, or nothing. -/
def HasText (line s : String) : Prop :=
  line = s ++ "\r\n" ∨
  (line = s ++ "\n" ∧ s.toList.getLast? ≠ some '\r') ∨
  (line = s ∧ line.toList.getLast? ≠ some '\n')

theorem exists_hasText (line : String) : ∃ s, HasText line s := by
  by_cases hnewline : line.toList.getLast? = some '\n'
  · obtain ⟨init, hinit⟩ := List.getLast?_eq_some_iff.1 hnewline
    by_cases hreturn : init.getLast? = some '\r'
    · obtain ⟨text, rfl⟩ := List.getLast?_eq_some_iff.1 hreturn
      exact ⟨.ofList text, .inl (String.toList_inj.1 (by simp [hinit]))⟩
    · exact ⟨.ofList init, .inr (.inl ⟨String.toList_inj.1 (by simp [hinit]), by simpa⟩)⟩
  · exact ⟨line, .inr (.inr ⟨rfl, hnewline⟩)⟩

/-- The terminator is dropped, and with it a carriage return that ends the line. -/
theorem dropTerminator_of_hasText {line s : String} (h : HasText line s) :
    dropTerminator line.toList =
      if line.toList.getLast? = some '\r' then s.toList.dropLast else s.toList := by
  rcases h with rfl | ⟨rfl, hreturn⟩ | ⟨rfl, hnewline⟩
  · rw [if_neg (by simp), String.toList_append]
    exact dropTerminator_append _
  · rw [if_neg (by simp), String.toList_append]
    exact dropTerminator_ended hreturn .newline
  · rw [dropTerminator, dropFinal_of_ne hnewline, dropFinal]

theorem ofStatus_eq_status_iff {rest : List Char} {n : Int} :
    ofStatus rest = status n ↔
      Text.Numeral (Text.trim rest) n ∧ -2 ^ 31 ≤ n ∧ n ≤ 2 ^ 31 - 1 := by
  rw [← Text.readInt32?_eq_some_iff, ofStatus]
  cases Text.readInt32? (Text.trim rest) <;> simp

theorem ofStatus_of_forall_ne {rest : List Char} (h : ∀ n, ofStatus rest ≠ status n) :
    ofStatus rest = badStatus (.ofList rest) := by
  rw [ofStatus] at h ⊢
  cases hn : Text.readInt32? (Text.trim rest) with
  | none => rfl
  | some n =>
    rw [hn] at h
    exact absurd rfl (h n)

/-- What surrounds the text of a `?` line says nothing. -/
theorem trim_surrounded {before after : List Char} (hbefore : ∀ c ∈ before, isBlank c = true)
    (hafter : ∀ c ∈ after, isBlank c = true) (cs : List Char) :
    Text.trim (before ++ (cs ++ after)) = Text.trim cs := by
  rw [Text.trim_indented hbefore, Text.trim_append hafter]

theorem classify_eq_status_iff (r : String) (n : Int) :
    classify ("?" ++ r) = status n ↔ Denotes r n := by
  rw [Denotes, ← trim_dropTerminator r.toList, ← ofStatus_eq_status_iff]
  exact Eq.congr_left (classify_marked '?' r)

theorem classify_rejected {r : String} (hr : ¬ ∃ n, Denotes r n) :
    classify ("?" ++ r) = badStatus (.ofList (dropTerminator r.toList)) := by
  have hne : ∀ n, ofStatus (dropTerminator r.toList) ≠ status n := fun n hn =>
    hr ⟨n, (classify_eq_status_iff r n).1 ((classify_marked '?' r).trans hn)⟩
  exact (classify_marked '?' r).trans (ofStatus_of_forall_ne hne)

/-- A text that is rejected is kept, unless it ends with a carriage return. -/
theorem classify_rejected_iff {r s : String} (hr : ¬ ∃ n, Denotes r n) (hs : HasText r s) :
    classify ("?" ++ r) = badStatus s ↔ r.toList.getLast? ≠ some '\r' := by
  rw [classify_rejected hr, badStatus.injEq, dropTerminator_of_hasText hs]
  split
  · rename_i hreturn
    obtain ⟨init, hinit⟩ := List.getLast?_eq_some_iff.1 hreturn
    have hopen : r = s := by
      rcases hs with rfl | ⟨rfl, -⟩ | ⟨rfl, -⟩
      · simp at hreturn
      · simp at hreturn
      · rfl
    refine iff_of_false (fun hkept => ?_) fun hne => hne hreturn
    have hlength := congrArg (fun t : String => t.toList.length) hkept
    simp [← hopen, hinit] at hlength
  · rename_i hreturn
    exact iff_of_true String.ofList_toList hreturn

/-- **The exit statuses are the integers of 32 bits.** The parts are: which texts set a status and
which one; that any other text is rejected and, but for a carriage return at its end, kept; what is
left where that is not so; and that every integer of 32 bits is read from its decimal notation. -/
theorem classify_status (r : String) :
    (∀ n, classify ("?" ++ r) = status n ↔ Denotes r n) ∧
    ((¬ ∃ n, Denotes r n) →
      (∃ s, HasText r s ∧
        (classify ("?" ++ r) = badStatus s ↔ r.toList.getLast? ≠ some '\r')) ∧
      ∀ s, r = s ++ "\r" → classify ("?" ++ r) = badStatus s) ∧
    ∀ (n : Int) (before after : String), r = before ++ (toString n ++ after) →
      -2 ^ 31 ≤ n → n ≤ 2 ^ 31 - 1 →
      (∀ c ∈ before.toList, isBlank c = true) → (∀ c ∈ after.toList, isBlank c = true) →
      classify ("?" ++ r) = status n := by
  refine ⟨classify_eq_status_iff r, fun hr => ⟨?_, ?_⟩, ?_⟩
  · obtain ⟨s, hs⟩ := exists_hasText r
    exact ⟨s, hs, classify_rejected_iff hr hs⟩
  · rintro s rfl
    rw [classify_rejected hr, String.toList_append]
    show badStatus (.ofList (dropTerminator (s.toList ++ ['\r']))) = _
    rw [dropTerminator_return, String.ofList_toList]
  · rintro n before after rfl hlow hhigh hbefore hafter
    refine (classify_eq_status_iff _ n).2 ⟨?_, hlow, hhigh⟩
    rw [String.toList_append, String.toList_append, trim_surrounded hbefore hafter,
      Text.trim_of_not_blank fun _ => Text.isBlank_of_mem_toString]
    exact Text.numeral_toString n

theorem not_denotes_of_readInt32? {r : String} (h : Text.readInt32? (Text.trim r.toList) = none) :
    ¬ ∃ n, Denotes r n := by
  rintro ⟨n, hn⟩
  rw [Text.readInt32?_eq_some_iff.2 hn] at h
  cases h

/-- The lowest status between an em space and a terminator, a sign and many zeros, the first number
that is too large, and two letters with a carriage return behind them. -/
theorem classify_status_limits :
    classify ("?" ++ ("\u2003" ++ (toString (-2147483648 : Int) ++ " \r\n"))) =
      status (-2147483648) ∧
    classify ("?" ++ "+0000000000007") = status 7 ∧
    (∃ s, HasText "2147483648\r\n" s ∧ classify ("?" ++ "2147483648\r\n") = badStatus s) ∧
    classify ("?" ++ "no\r") = badStatus "no" := by
  obtain ⟨-, -, hwritten⟩ := classify_status ("\u2003" ++ (toString (-2147483648 : Int) ++ " \r\n"))
  obtain ⟨hstatus, -, -⟩ := classify_status "+0000000000007"
  obtain ⟨-, hlarge, -⟩ := classify_status "2147483648\r\n"
  obtain ⟨⟨s, hs, hkept⟩, -⟩ := hlarge (not_denotes_of_readInt32? (by decide +kernel))
  obtain ⟨-, hletters, -⟩ := classify_status "no\r"
  obtain ⟨-, hreturn⟩ := hletters (not_denotes_of_readInt32? (by decide +kernel))
  refine ⟨hwritten _ _ _ rfl (by decide) (by decide) ?_ ?_, (hstatus _).2 ?_,
    ⟨s, hs, hkept.2 (by decide +kernel)⟩, hreturn "no" (by decide +kernel)⟩
  · exact List.all_eq_true.1 (by decide)
  · exact List.all_eq_true.1 (by decide)
  · exact Text.readInt32?_eq_some_iff.1 (by decide +kernel)

/-- A line that is rejected does not always keep its text: not `x` and a carriage return. -/
theorem classify_open_status :
    ¬ ∀ r s : String, (¬ ∃ n, Denotes r n) → HasText r s → classify ("?" ++ r) = badStatus s := by
  intro h
  have hkept : classify ("?" ++ "x\r") = badStatus "x\r" :=
    h "x\r" "x\r" (not_denotes_of_readInt32? (by decide +kernel)) (.inr (.inr ⟨rfl, by decide⟩))
  exact absurd hkept (by decide +kernel)

/-! ## Content -/

/-- The markers of content, each with what its line says. -/
def contentMarkers : List (Char × (String → Directive)) :=
  [('<', input), ('>', output), ('/', errorOutput)]

theorem ofLine_content {m : Char × (String → Directive)} (hm : m ∈ contentMarkers)
    (rest : List Char) : ofLine (m.1 :: rest) = m.2 (.ofList (dropTerminator rest)) := by
  simp only [contentMarkers, List.mem_cons, List.not_mem_nil, or_false] at hm
  rcases hm with rfl | rfl | rfl <;> rfl

theorem content_injective {m : Char × (String → Directive)} (hm : m ∈ contentMarkers) :
    Function.Injective m.2 := by
  simp only [contentMarkers, List.mem_cons, List.not_mem_nil, or_false] at hm
  rcases hm with rfl | rfl | rfl <;> intro s s' h <;> cases h <;> rfl

theorem dropFinal_eq_self_iff {c : Char} {cs : List Char} :
    dropFinal c cs = cs ↔ cs.getLast? ≠ some c := by
  refine ⟨fun h hlast => ?_, dropFinal_of_ne⟩
  obtain ⟨init, rfl⟩ := List.getLast?_eq_some_iff.1 hlast
  rw [dropFinal_append] at h
  simpa using congrArg List.length h

section

variable {s : String} (hs : '\n' ∉ s.toList)
include hs

theorem dropTerminator_open : dropTerminator s.toList = dropFinal '\r' s.toList := by
  rw [dropTerminator, dropFinal_of_ne fun hlast => hs (List.mem_of_getLast? hlast)]

/-- **The text of a content line.** The parts are: the line that is not closed, the line that is
closed by a newline, the line that is closed by a carriage return and a newline, and when a line
that is not closed keeps its text. -/
theorem classify_content {m : Char × (String → Directive)} (hm : m ∈ contentMarkers) :
    classify (m.1.toString ++ s) = m.2 (.ofList (dropFinal '\r' s.toList)) ∧
    classify (m.1.toString ++ (s ++ "\n")) = m.2 (.ofList (dropFinal '\r' s.toList)) ∧
    classify (m.1.toString ++ (s ++ "\r\n")) = m.2 s ∧
    (classify (m.1.toString ++ s) = m.2 s ↔ s.toList.getLast? ≠ some '\r') := by
  have hopen : classify (m.1.toString ++ s) = m.2 (.ofList (dropFinal '\r' s.toList)) := by
    rw [classify_marked, ofLine_content hm, dropTerminator_open hs]
  refine ⟨hopen, ?_, ?_, ?_⟩
  · rw [classify_marked, ofLine_content hm, String.toList_append]
    show m.2 (.ofList (dropFinal '\r' (dropFinal '\n' (s.toList ++ ['\n'])))) = _
    rw [dropFinal_append]
  · rw [classify_marked, ofLine_content hm, String.toList_append]
    show m.2 (.ofList (dropTerminator (s.toList ++ ['\r', '\n']))) = _
    rw [dropTerminator_append, String.ofList_toList]
  · rw [hopen, (content_injective hm).eq_iff, ← dropFinal_eq_self_iff, ← String.toList_inj,
      String.toList_ofList]

end

/-- The text `a` and a carriage return, on a line that is not closed. -/
theorem classify_content_return :
    '\n' ∉ "a\r".toList ∧ ('>', output) ∈ contentMarkers ∧
    classify ('>'.toString ++ "a\r") = output "a" ∧
    classify ('>'.toString ++ ("a\r" ++ "\r\n")) = output "a\r" := by
  have hs : '\n' ∉ "a\r".toList := by decide
  have hm : (('>', output) : Char × (String → Directive)) ∈ contentMarkers :=
    List.mem_cons_of_mem _ List.mem_cons_self
  obtain ⟨hopen, -, hclosed, -⟩ := classify_content hs hm
  exact ⟨hs, hm, hopen, hclosed⟩

/-- A line that is not closed does not always keep its text. -/
theorem classify_open_return :
    ¬ ∀ m ∈ contentMarkers, ∀ s : String, '\n' ∉ s.toList →
      classify (m.1.toString ++ s) = m.2 s := by
  intro h
  have hkept : classify ('>'.toString ++ "a\r") = output "a\r" :=
    h ('>', output) (List.mem_cons_of_mem _ List.mem_cons_self) "a\r" (by decide)
  exact absurd hkept (by decide)

end CommandSpec.Directive
