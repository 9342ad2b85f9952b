import CommandSpec.Proofs.Session.Logbook
import CommandSpec.Proofs.Spec.Line
import CommandSpec.Proofs.Text.Lines
import CommandSpec.Proofs.Text.Utf8
import Mathlib.Logic.Relation

/-!
# Specs that read the same

A run depends on what the lines of a spec say, and different bytes may say the same. Two changes
that leave every line as it is read are proved to leave the run as it is, at any channels and with
any host: it takes the same steps, and it has the host run the same commands.

**Theorem (`runSpec_replaced`).** A spec may be decoded as a whole, so that a replacement character
stands for every invalid subpart, and encoded again. The lines of this replacement are the
replacements of the lines, one for one. For a subpart that a newline cuts off ends before it: no
byte below 128 continues a character, and the decoder starts afresh after it
(`Utf8.decode_append_cons`). And a newline of the decoded text comes from a newline byte
(`Utf8.newline_not_mem_decode`). So cutting and decoding may change places.

**Theorem (`runSpec_relaid`).** A spec may be laid out differently, in any number of changes
(`Relaid`): a line is indented, a line is closed by a newline in the place of a carriage return and
a newline, or the other way, and the last line is closed that was not. A line that ends in a
carriage return of its own is left alone, since its end would be taken for a terminator. For all
others one change leaves what every line says (`Relaid.linesOfSpec_eq`): the line that is changed
says the same (`SpecLine.ofBytes_indented`, `SpecLine.ofBytes_ended`), and the lines before it and
after it are the same bytes.
-/

namespace CommandSpec

/-! ## Replacement -/

/-- **The lines of a replacement are the replacements of the lines.** -/
theorem physicalLines_replaced (bytes : List UInt8) :
    Text.physicalLines (Utf8.replaced bytes) = (Text.physicalLines bytes).map Utf8.replaced := by
  induction bytes using Text.separated_induction Text.newline with
  | last line hline =>
    have hreplaced : Text.newline ∉ Utf8.replaced line := Utf8.newline_not_mem_replaced hline
    rw [Text.physicalLines_of_not_mem hline, Text.physicalLines_of_not_mem hreplaced]
    by_cases hnil : line = [] <;> simp [hnil, Utf8.replaced_eq_nil]
  | closed line rest hline ih =>
    have hreplaced : Text.newline ∉ Utf8.replaced line := Utf8.newline_not_mem_replaced hline
    have hclosed : Utf8.replaced (line ++ [Text.newline]) = Utf8.replaced line ++ [Text.newline] :=
      Utf8.replaced_append_newline line []
    have hwhole : Utf8.replaced (line ++ Text.newline :: rest) =
        Utf8.replaced line ++ Text.newline :: Utf8.replaced rest :=
      Utf8.replaced_append_newline line rest
    rw [hwhole, Text.physicalLines_append_newline hreplaced, ih,
      Text.physicalLines_append_newline hline, List.map_cons, hclosed]

/-- A line says what its replacement says. -/
theorem SpecLine.ofBytes_replaced (bytes : List UInt8) :
    SpecLine.ofBytes (Utf8.replaced bytes) = SpecLine.ofBytes bytes := by
  rw [SpecLine.ofBytes, Utf8.decode_replaced, SpecLine.ofBytes]

theorem linesOfSpec_replaced (bytes : List UInt8) :
    linesOfSpec (Utf8.replaced bytes) = linesOfSpec bytes := by
  rw [linesOfSpec, physicalLines_replaced, List.map_map, linesOfSpec]
  exact List.map_congr_left fun line _ => SpecLine.ofBytes_replaced line

/-- **Undecodable bytes act only through their replacement.** -/
theorem runSpec_replaced (opts : SpecOptions) (label : String) (bytes : List UInt8) :
    (∀ {ω δ σ : Type} [Channel ω] [Channel δ] [Executor σ],
      (runSpec opts label (.ofBytes (Utf8.replaced bytes)) : Running ω δ σ (Nat × Nat)) =
        runSpec opts label (.ofBytes bytes)) ∧
    (∀ {σ : Type} [Executor σ] (host : σ),
      callsOfSpec opts label (Utf8.replaced bytes) host = callsOfSpec opts label bytes host) ∧
    Text.physicalLines (Utf8.replaced bytes) = (Text.physicalLines bytes).map Utf8.replaced :=
  ⟨runSpec_congr (linesOfSpec_replaced bytes) opts label,
    callsOfSpec_congr (linesOfSpec_replaced bytes) opts label, physicalLines_replaced bytes⟩

/-! ## The layout of one line -/

/-- The bytes that close a line. -/
def LineEnd.bytes (e : LineEnd) : List UInt8 :=
  Utf8.encode e.chars

theorem LineEnd.decode_append_bytes (e : LineEnd) (content : List UInt8) :
    Utf8.decode (content ++ e.bytes) = Utf8.decode content ++ e.chars := by
  cases e with
  | newline => exact Utf8.decode_append_cons (by decide) content []
  | returnNewline =>
    have hreturn := Utf8.decode_append_cons (b := 0x0D) (by decide) content [0x0A]
    rwa [Utf8.decode_cons (by decide)] at hreturn

namespace SpecLine

theorem ofChars_indented {indent : List Char} (h : ∀ c ∈ indent, isBlank c = true)
    (cs : List Char) : ofChars (indent ++ cs) = ofChars cs := by
  rw [ofChars, Text.trimStart_indented h, Text.trim_indented h, ofChars]

theorem ofChars_ended {cs : List Char} (hn : cs.getLast? ≠ some '\n')
    (hr : cs.getLast? ≠ some '\r') (e : LineEnd) : ofChars (cs ++ e.chars) = ofChars cs := by
  have hdirective :
      Directive.ofLine (Text.trimStart (cs ++ e.chars)) = Directive.ofLine (Text.trimStart cs) := by
    rw [Text.trimStart_append LineEnd.isBlank_of_mem]
    split
    · rename_i hnil
      rw [hnil]
    · rename_i hne
      have hlast := Text.getLast?_trimStart hne
      exact Directive.ofLine_ended hne (hlast ▸ hn) (hlast ▸ hr) e
  rw [ofChars, hdirective, Text.trim_append LineEnd.isBlank_of_mem, ofChars]

/-- **The indentation of a line says nothing.** -/
theorem ofBytes_indented {indent : List Char} (h : ∀ c ∈ indent, isBlank c = true)
    (line : List UInt8) : ofBytes (Utf8.encode indent ++ line) = ofBytes line := by
  rw [ofBytes, Utf8.decode_encode_append, ofChars_indented h, ofBytes]

/-- **The terminator of a line says nothing**, unless the line ends in a carriage return. -/
theorem ofBytes_ended {content : List UInt8} (hn : Text.newline ∉ content)
    (hr : content.getLast? ≠ some 0x0D) (e : LineEnd) :
    ofBytes (content ++ e.bytes) = ofBytes content := by
  have hnewline : (Utf8.decode content).getLast? ≠ some '\n' := fun hlast =>
    Utf8.newline_not_mem_decode hn (List.mem_of_getLast? hlast)
  have hreturn : (Utf8.decode content).getLast? ≠ some '\r' := fun hlast => by
    obtain ⟨b, hb, hbyte⟩ :=
      Utf8.exists_getLast?_of_run (s := .start) (by decide) (by decide) trivial hlast
    exact hr ((UInt8.toNat_inj.1 hbyte : b = 0x0D) ▸ hb)
  rw [ofBytes, e.decode_append_bytes, ofChars_ended hnewline hreturn, ofBytes]

end SpecLine

/-! ## One change of layout -/

/-- A line starts after these bytes. -/
def LineStart (before : List UInt8) : Prop :=
  before = [] ∨ before.getLast? = some Text.newline

/-- A spec and the same spec with one line laid out differently. -/
inductive Relaid : List UInt8 → List UInt8 → Prop
  /-- The line after `before` is indented. -/
  | indented (before : List UInt8) (indent : List Char) (lines : List UInt8) :
      LineStart before → lines ≠ [] → (∀ c ∈ indent, isBlank c = true ∧ c ≠ '\n') →
      Relaid (before ++ lines) (before ++ (Utf8.encode indent ++ lines))
  /-- The line after `before` gets another terminator. -/
  | ended (before content : List UInt8) (e e' : LineEnd) (after : List UInt8) :
      LineStart before → Text.newline ∉ content → content.getLast? ≠ some 0x0D →
      Relaid (before ++ (content ++ e.bytes ++ after)) (before ++ (content ++ e'.bytes ++ after))
  /-- The last line, which is open, is closed. -/
  | closed (before content : List UInt8) (e : LineEnd) :
      LineStart before → content ≠ [] → Text.newline ∉ content → content.getLast? ≠ some 0x0D →
      Relaid (before ++ content) (before ++ (content ++ e.bytes))

theorem linesOfSpec_indented {indent : List Char} (h : ∀ c ∈ indent, isBlank c = true ∧ c ≠ '\n')
    {lines : List UInt8} (hlines : lines ≠ []) :
    linesOfSpec (Utf8.encode indent ++ lines) = linesOfSpec lines := by
  obtain ⟨line, ls, heq⟩ := Text.exists_physicalLines hlines
  have hnewline : Text.newline ∉ Utf8.encode indent :=
    Utf8.newline_not_mem_encode fun hmem => (h _ hmem).2 rfl
  rw [linesOfSpec, Text.physicalLines_append_of_not_mem hnewline heq, linesOfSpec, heq,
    List.map_cons, List.map_cons, SpecLine.ofBytes_indented fun c hc => (h c hc).1]

theorem linesOfSpec_ended {content : List UInt8} (hn : Text.newline ∉ content)
    (hr : content.getLast? ≠ some 0x0D) (e : LineEnd) (after : List UInt8) :
    linesOfSpec (content ++ e.bytes ++ after) = SpecLine.ofBytes content :: linesOfSpec after := by
  have hcut : Text.physicalLines (content ++ e.bytes ++ after) =
      (content ++ e.bytes) :: Text.physicalLines after := by
    cases e with
    | newline =>
      rw [List.append_assoc]
      exact Text.physicalLines_append_newline hn after
    | returnNewline =>
      have hreturn : Text.newline ∉ content ++ [0x0D] := by
        rw [List.mem_append, not_or]
        exact ⟨hn, by decide⟩
      have h := Text.physicalLines_append_newline hreturn after
      rw [List.append_assoc, List.append_assoc] at h
      rw [List.append_assoc]
      exact h
  rw [linesOfSpec, hcut, List.map_cons, SpecLine.ofBytes_ended hn hr, linesOfSpec]

/-- **One change of layout changes no line.** -/
theorem Relaid.linesOfSpec_eq {bytes bytes' : List UInt8} (h : Relaid bytes bytes') :
    linesOfSpec bytes = linesOfSpec bytes' := by
  cases h with
  | indented before indent lines hbefore hlines hindent =>
    rw [linesOfSpec_append hbefore, linesOfSpec_append hbefore,
      linesOfSpec_indented hindent hlines]
  | ended before content e e' after hbefore hn hr =>
    rw [linesOfSpec_append hbefore, linesOfSpec_append hbefore, linesOfSpec_ended hn hr,
      linesOfSpec_ended hn hr]
  | closed before content e hbefore hcontent hn hr =>
    have hopen : linesOfSpec content = [SpecLine.ofBytes content] := by
      rw [linesOfSpec, Text.physicalLines_of_not_mem hn, if_neg hcontent, List.map_singleton]
    have hclosed : linesOfSpec (content ++ e.bytes) = [SpecLine.ofBytes content] := by
      simpa [linesOfSpec] using linesOfSpec_ended hn hr e []
    rw [linesOfSpec_append hbefore, linesOfSpec_append hbefore, hopen, hclosed]

/-! ## Any number of changes of layout -/

theorem linesOfSpec_relaid {bytes bytes' : List UInt8}
    (h : Relation.ReflTransGen Relaid bytes bytes') : linesOfSpec bytes = linesOfSpec bytes' := by
  induction h with
  | refl => rfl
  | tail _ hstep ih => exact ih.trans hstep.linesOfSpec_eq

/-- **The layout of a spec is not seen in its run.** -/
theorem runSpec_relaid {bytes bytes' : List UInt8} (h : Relation.ReflTransGen Relaid bytes bytes')
    (opts : SpecOptions) (label : String) :
    (∀ {ω δ σ : Type} [Channel ω] [Channel δ] [Executor σ],
      (runSpec opts label (.ofBytes bytes) : Running ω δ σ (Nat × Nat)) =
        runSpec opts label (.ofBytes bytes')) ∧
    ∀ {σ : Type} [Executor σ] (host : σ),
      callsOfSpec opts label bytes host = callsOfSpec opts label bytes' host :=
  ⟨runSpec_congr (linesOfSpec_relaid h) opts label,
    callsOfSpec_congr (linesOfSpec_relaid h) opts label⟩

/-- The first line is indented by an ideographic space, the second gets another terminator, and the
last, a comment that is echoed, is closed. -/
theorem runSpec_relaid_parrot :
    let bytes : List UInt8 := [0x21, 0x61, 0x0A, 0x3E, 0x61, 0x0A, 0x23, 0x62]
    let bytes' : List UInt8 :=
      [0xE3, 0x80, 0x80, 0x21, 0x61, 0x0A, 0x3E, 0x61, 0x0D, 0x0A, 0x23, 0x62, 0x0D, 0x0A]
    Relation.ReflTransGen Relaid bytes bytes' ∧
    runSpec { verbose := true } "t" (.ofBytes bytes') (.unlimited "" "" ({} : Parrot)) =
      .ok (0, 1) (.unlimited "#b\nt #1: !a\nt #1: ok\nt: OK (1 passed)\n" "" {}) ∧
    callsOfSpec { verbose := true } "t" bytes' ({} : Parrot) = [("a", [])] := by
  intro bytes bytes'
  have hspace : Utf8.encode ['\u3000'] = [0xE3, 0x80, 0x80] := by decide
  have hblank : ∀ c ∈ ['\u3000'], isBlank c = true ∧ c ≠ '\n' :=
    List.forall_mem_singleton.2 (by decide)
  have hindented := Relaid.indented [] ['\u3000'] bytes (.inl rfl) (by decide) hblank
  rw [hspace] at hindented
  have hended := Relaid.ended [0xE3, 0x80, 0x80, 0x21, 0x61, 0x0A] [0x3E, 0x61] .newline
    .returnNewline [0x23, 0x62] (.inr rfl) (by decide) (by decide)
  have hclosed := Relaid.closed
    [0xE3, 0x80, 0x80, 0x21, 0x61, 0x0A, 0x3E, 0x61, 0x0D, 0x0A] [0x23, 0x62]
    .returnNewline (.inr rfl) (by decide) (by decide) (by decide)
  have hrelaid : Relation.ReflTransGen Relaid bytes bytes' :=
    ((Relation.ReflTransGen.single hindented).tail hended).tail hclosed
  obtain ⟨hrun, hcalls⟩ := runSpec_relaid hrelaid { verbose := true } "t"
  refine ⟨hrelaid, ?_, ?_⟩
  · rw [← hrun]
    decide +kernel
  · rw [← hcalls]
    decide +kernel

end CommandSpec
