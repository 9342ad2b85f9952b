import CommandSpec.Proofs.Session.Batch

/-!
# Runs that halt

A command that cannot be started halts the run of its spec. The commands before it were run, each
when the `!` line after it was taken; the one that cannot be started is that of the testcase which
is then pending (`Halts`).

**Theorem (`answered_or_halts`).** Either all testcases of a spec are answered, or its run halts.

**Theorem (`runSpec_of_halts`).** A run that halts has taken only the lines up to the end of the
testcase whose command could not be started. It has written the account of the stretches up to
there, the last of which is not closed, and told the diagnostics of those lines.

So a run that returns has all its testcases answered, and is the batch of the answers
(`exists_answered_of_runSpec`).
-/

namespace CommandSpec

/-! ## Where a run halts -/

/-- The end of a run at a command that cannot be started. -/
structure Halt (σ : Type) where
  /-- The lines that were taken. -/
  before : List SpecLine := []
  /-- The answers to the testcases that these lines closed. -/
  answers : List (Option Execution) := []
  /-- The testcase whose command cannot be started. -/
  testcase : Testcase
  error : RunError
  /-- What the host is left as. -/
  host : σ

/-- A draft takes lines until a command cannot be started. -/
inductive Halts {σ : Type} [Executor σ] : Draft → List SpecLine → σ → Halt σ → Prop
  /-- The command of the testcase that is pending, where it would be closed. -/
  | here {d : Draft} {ls : List SpecLine} {s s' : σ} {tc : Testcase} {e : RunError} :
      (∀ l ∈ ls.head?, l.directive.isCommand = true) → d.pending? = some tc →
      tc.malformed = false → Executor.execute tc.command tc.stdin s = .error e s' →
      Halts d ls s { testcase := tc, error := e, host := s' }
  /-- After a line that closes nothing. -/
  | line {d : Draft} {l : SpecLine} {ls : List SpecLine} {s : σ} {h : Halt σ} :
      l.directive.isCommand = false → Halts (d.take l.directive).2 ls s h →
      Halts d (l :: ls) s { h with before := l :: h.before }
  /-- After a `!` line. -/
  | command {d : Draft} {l : SpecLine} {ls : List SpecLine} {s s' : σ} {text : String}
      {as : List (Option Execution)} {h : Halt σ} :
      l.directive = .command text → Answered d.pending?.toList s as s' →
      Halts ⟨.start text (d.line + 1), true, d.line + 1⟩ ls s' h →
      Halts d (l :: ls) s { h with before := l :: h.before, answers := as ++ h.answers }

section

variable {σ : Type} [Executor σ]

/-- A testcase is answered, unless its command cannot be started. -/
theorem answered_or_error (tc? : Option Testcase) (s : σ) :
    (∃ as s', Answered tc?.toList s as s') ∨
      ∃ tc e s', tc? = some tc ∧ tc.malformed = false ∧
        Executor.execute tc.command tc.stdin s = .error e s' := by
  cases tc? with
  | none => exact .inl ⟨[], s, .nil s⟩
  | some tc =>
    cases hm : tc.malformed with
    | true => exact .inl ⟨[none], s, .cons ⟨hm, rfl⟩ (.nil s)⟩
    | false =>
      cases he : Executor.execute tc.command tc.stdin s with
      | ok r s' => exact .inl ⟨[some r], s', .cons ⟨hm, he⟩ (.nil s')⟩
      | error e s' => exact .inr ⟨tc, e, s', rfl, hm, he⟩

/-- Testcases are answered up to the first whose command cannot be started. -/
theorem answered_or_exists_error (tcs : List Testcase) (s : σ) :
    (∃ as s', Answered tcs s as s') ∨
      ∃ earlier tc later as s₁ e s₂, tcs = earlier ++ tc :: later ∧ Answered earlier s as s₁ ∧
        tc.malformed = false ∧ Executor.execute tc.command tc.stdin s₁ = .error e s₂ := by
  induction tcs generalizing s with
  | nil => exact .inl ⟨[], s, .nil s⟩
  | cons tc tcs ih =>
    rcases answered_or_error (some tc) s with ⟨as₁, s₁, h₁⟩ | ⟨tc', e, s₂, htc, hm, he⟩
    · rcases ih s₁ with ⟨as₂, s', h₂⟩ | ⟨earlier, tc', later, as₂, s', e, s₂, rfl, h₂, hm, he⟩
      · exact .inl ⟨_, s', answered_append.2 ⟨as₁, s₁, as₂, rfl, h₁, h₂⟩⟩
      · exact .inr ⟨tc :: earlier, tc', later, as₁ ++ as₂, s', e, s₂, rfl,
          answered_append.2 ⟨as₁, s₁, as₂, rfl, h₁, h₂⟩, hm, he⟩
    · cases htc
      exact .inr ⟨[], tc, tcs, [], s, e, s₂, rfl, .nil s, hm, he⟩

/-- **All testcases are answered, or the run halts.** -/
theorem answered_or_halts (d : Draft) (ls : List SpecLine) (s : σ) :
    (∃ as s', Answered (d.due SpecLine.directive ls) s as s') ∨ ∃ h, Halts d ls s h := by
  induction ls using command_induction SpecLine.directive generalizing d s with
  | nil =>
    rw [Draft.due_nil]
    refine (answered_or_error d.pending? s).imp_right ?_
    rintro ⟨tc, e, s', hp, hm, he⟩
    exact ⟨_, .here (by simp) hp hm he⟩
  | command l ls text htext ih =>
    rw [Draft.due_cons_command htext]
    rcases answered_or_error d.pending? s with ⟨as₁, s₁, h₁⟩ | ⟨tc, e, s', hp, hm, he⟩
    · rcases ih ⟨.start text (d.line + 1), true, d.line + 1⟩ s₁ with ⟨as₂, s₂, h₂⟩ | ⟨h, hh⟩
      · exact .inl ⟨_, _, answered_append.2 ⟨as₁, s₁, as₂, rfl, h₁, h₂⟩⟩
      · exact .inr ⟨_, .command htext h₁ hh⟩
    · have hl : l.directive.isCommand = true := htext ▸ rfl
      exact .inr ⟨_, .here (by simpa using hl) hp hm he⟩
  | other l ls hl ih =>
    rw [Draft.due_cons hl]
    exact (ih (d.take l.directive).2 s).imp_right fun ⟨h, hh⟩ => ⟨_, .line hl hh⟩

/-- The lines before are the first of the spec. -/
theorem Halts.exists_rest {d : Draft} {ls : List SpecLine} {s : σ} {h : Halt σ}
    (hh : Halts d ls s h) :
    ∃ rest, ls = h.before ++ rest ∧ ∀ l ∈ rest.head?, l.directive.isCommand = true := by
  induction hh with
  | here hrest => exact ⟨_, rfl, hrest⟩
  | line _ _ ih =>
    obtain ⟨rest, rfl, hrest⟩ := ih
    exact ⟨rest, rfl, hrest⟩
  | command _ _ _ ih =>
    obtain ⟨rest, rfl, hrest⟩ := ih
    exact ⟨rest, rfl, hrest⟩

/-- The testcases that are closed before, the one whose command cannot be started, and the others.
-/
theorem Halts.exists_due_eq {d : Draft} {ls : List SpecLine} {s : σ} {h : Halt σ}
    (hh : Halts d ls s h) :
    ∃ more, d.due SpecLine.directive ls =
      d.closes (h.before.map SpecLine.directive) ++ h.testcase :: more := by
  induction hh with
  | @here d ls _ _ tc _ hrest hp =>
    cases ls with
    | nil => exact ⟨[], by rw [Draft.due_nil, hp]; rfl⟩
    | cons l ls =>
      obtain ⟨text, htext⟩ := Directive.exists_of_isCommand (hrest l rfl)
      exact ⟨_, by rw [Draft.due_cons_command htext, hp]; rfl⟩
  | line hl _ ih =>
    obtain ⟨more, hmore⟩ := ih
    exact ⟨more, by rw [Draft.due_cons hl, hmore, List.map_cons, Draft.closes_cons_other hl]⟩
  | command htext _ _ ih =>
    obtain ⟨more, hmore⟩ := ih
    exact ⟨more, by
      rw [Draft.due_cons_command htext, hmore, List.map_cons, Draft.closes_cons_command htext,
        List.append_assoc]⟩

/-- The testcases before are answered, and then the command cannot be started. -/
theorem Halts.exists_answered {d : Draft} {ls : List SpecLine} {s : σ} {h : Halt σ}
    (hh : Halts d ls s h) :
    h.testcase.malformed = false ∧
      ∃ s', Answered (d.closes (h.before.map SpecLine.directive)) s h.answers s' ∧
        Executor.execute h.testcase.command h.testcase.stdin s' = .error h.error h.host := by
  induction hh with
  | here _ _ hm he => exact ⟨hm, _, .nil _, he⟩
  | line hl _ ih => rwa [List.map_cons, Draft.closes_cons_other hl]
  | command htext h₁ _ ih =>
    obtain ⟨hm, s', h₂, he⟩ := ih
    rw [List.map_cons, Draft.closes_cons_command htext]
    exact ⟨hm, s', answered_append.2 ⟨_, _, _, rfl, h₁, h₂⟩, he⟩

/-- The testcase whose command cannot be started is the one that is pending then. -/
theorem Halts.pending?_after {d : Draft} {ls : List SpecLine} {s : σ} {h : Halt σ}
    (hh : Halts d ls s h) :
    (d.after (h.before.map SpecLine.directive)).pending? = some h.testcase := by
  induction hh with
  | here _ hp => exact hp
  | line _ _ ih => exact ih
  | command htext _ _ ih => rwa [List.map_cons, Draft.after_cons, htext, Draft.take_command]

end

/-! ## What a run that halts does -/

/-- The stretches, the last of which is not closed. -/
def openEnded {α : Type} : List (Stretch α) → List (Stretch α)
  | [] => []
  | [s] => [{ s with testcase? := none }]
  | s :: ss => s :: openEnded ss

theorem openEnded_cons {α : Type} (s : Stretch α) {ss : List (Stretch α)} (h : ss ≠ []) :
    openEnded (s :: ss) = s :: openEnded ss := by
  obtain ⟨s', ss, rfl⟩ := List.exists_cons_of_ne_nil h
  rfl

theorem openEnded_ne_nil {α : Type} {ss : List (Stretch α)} (h : ss ≠ []) : openEnded ss ≠ [] := by
  obtain ⟨s, ss, rfl⟩ := List.exists_cons_of_ne_nil h
  cases ss <;> exact List.cons_ne_nil _ _

theorem openEnded_modifyHead {α : Type} (l : α) (ss : List (Stretch α)) :
    openEnded (ss.modifyHead fun s => { s with lines := l :: s.lines }) =
      (openEnded ss).modifyHead fun s => { s with lines := l :: s.lines } := by
  match ss with
  | [] => rfl
  | [s] => rfl
  | s :: s' :: ss => rfl

theorem flatMap_openEnded {α : Type} (ss : List (Stretch α)) :
    (openEnded ss).flatMap Stretch.lines = ss.flatMap Stretch.lines := by
  induction ss with
  | nil => rfl
  | cons s ss ih =>
    cases ss with
    | nil => rfl
    | cons s' ss => exact congrArg (s.lines ++ ·) ih

/-- The testcases of the stretches that are closed. -/
theorem filterMap_openEnded {α : Type} (reads : α → Directive) (d : Draft) (ls : List α) :
    (openEnded (d.stretches reads ls)).filterMap Stretch.testcase? = d.closes (ls.map reads) := by
  induction ls using command_induction reads generalizing d with
  | nil => rfl
  | command l ls text htext ih =>
    rw [Draft.stretches_cons_command htext, openEnded_cons _ (Draft.stretches_ne_nil _ _ _),
      List.map_cons, Draft.closes_cons_command htext, ← ih]
    cases d.pending? <;> rfl
  | other l ls hl ih =>
    obtain ⟨s, ss, hss⟩ := List.exists_cons_of_ne_nil
      (openEnded_ne_nil (Draft.stretches_ne_nil reads (d.take (reads l)).2 ls))
    rw [Draft.stretches_cons hl, openEnded_modifyHead, List.map_cons, Draft.closes_cons_other hl,
      ← ih, hss]
    rfl

theorem filterMap_openEnded_stretches {α : Type} (reads : α → Directive) (ls : List α) :
    (openEnded (stretches reads ls)).filterMap Stretch.testcase? =
      Draft.empty.closes (ls.map reads) := by
  rw [← Draft.stretches_empty, filterMap_openEnded]

namespace Session

variable {σ : Type} [Executor σ] {opts : SpecOptions} {t : Tally} {out : String} {d : Draft}
  {s s' s'' : σ} {as : List (Option Execution)} {tc : Testcase} {e : RunError}

/-- **The account of lines that are taken.** The last of their stretches is not closed yet. -/
theorem takeEach_unlimited (d : Draft) (ls : List SpecLine) (err : String)
    (h : Answered (d.closes (ls.map SpecLine.directive)) s as s') (hf : t.failed = false)
    (hv : t.verbose = opts.verbose) :
    takeEach opts d ls (unlimited t out (⟨err, none⟩ : Sink) s) =
      .ok (d.after (ls.map SpecLine.directive))
        (unlimited (t.closedAll opts.filterDebug (d.closes (ls.map SpecLine.directive)) as)
          (out ++ blockOfLines (account opts t.label t.index
            (openEnded (d.stretches SpecLine.directive ls)) as))
          ⟨err ++ blockOfLines ((d.answers (ls.map SpecLine.directive)).filterMap
            (Taken.diagnostic? t.label)), none⟩ s') := by
  induction ls using command_induction SpecLine.directive generalizing d t out err s as with
  | nil =>
    cases h
    simp [takeEach, pure, EStateM.pure, Draft.closes, Draft.answers, Draft.stretches, openEnded,
      account, Tally.closedAll_nil hf]
  | command l ls text htext ih =>
    rw [List.map_cons, Draft.closes_cons_command htext] at h ⊢
    obtain ⟨as₁, s₁, as₂, rfl, h₁, h₂⟩ := answered_append.1 h
    rw [takeEach, takeLine_command htext, bind_assoc, bind_of_ok (settle_unlimited h₁ hf hv _),
      pure_bind, ih (t := t.closedAll opts.filterDebug d.pending?.toList as₁) _ _ h₂ rfl hv,
      ← Tally.closedAll_append _ _ h₁.length_eq, Draft.stretches_cons_command htext,
      openEnded_cons _ (Draft.stretches_ne_nil _ _ _), account_cons_nil _ _ _ _ _ h₁.length_eq,
      diagnostics_cons_command htext, Draft.after_cons, htext, Draft.take_command]
    simp only [Tally.closedAll, String.append_assoc, ← blockOfLines_append]
  | other l ls hl ih =>
    rw [List.map_cons, Draft.closes_cons_other hl] at h ⊢
    rw [takeEach, bind_of_ok (takeLine_unlimited hl d err), ih _ _ h hf hv,
      Draft.stretches_cons hl, openEnded_modifyHead,
      account_modifyHead _ _ _ _ (openEnded_ne_nil (Draft.stretches_ne_nil _ _ _))]
    simp only [String.append_assoc, ← blockOfLines_append, Draft.after_cons, Draft.answers,
      ← List.filterMap_append, List.singleton_append]

/-- A testcase whose command cannot be started is only announced. -/
theorem settle_of_error (hp : d.pending? = some tc) (hm : tc.malformed = false)
    (he : Executor.execute tc.command tc.stdin s = .error e s') (err : String) :
    settle opts d (unlimited t out (⟨err, none⟩ : Sink) s) =
      .error (e.located t.label tc.line)
        (unlimited t (out ++ blockOfLines (announcement opts t.label t.index tc)) ⟨err, none⟩
          s') := by
  rw [settle, hp]
  exact perform_of_error hm he _

/-- The pending testcase is settled at a `!` line. -/
theorem takeEach_of_error {l : SpecLine} {s s' : Session Sink Sink σ}
    (hl : l.directive.isCommand = true) (h : settle opts d s = .error e s') (ls : List SpecLine) :
    takeEach opts d (l :: ls) s = .error e s' := by
  obtain ⟨text, htext⟩ := Directive.exists_of_isCommand hl
  rw [takeEach, takeLine_command htext, bind_assoc]
  exact bind_of_error h

/-- The pending testcase is settled at a `!` line and at the end of the spec. -/
theorem takeEach_close_of_error {ls : List SpecLine} {s s' : Session Sink Sink σ}
    (hls : ∀ l ∈ ls.head?, l.directive.isCommand = true) (h : settle opts d s = .error e s') :
    (takeEach opts d ls >>= close opts) s = .error e s' := by
  cases ls with
  | nil =>
    rw [takeEach, pure_bind, close_eq]
    exact bind_of_error h
  | cons l ls => exact bind_of_error (takeEach_of_error (hls l rfl) h ls)

/-- **The account of a run that halts.** It takes the lines before the one that closes the testcase
whose command cannot be started. -/
theorem takeEach_close_of_pending {before rest : List SpecLine}
    (h : Answered (d.closes (before.map SpecLine.directive)) s as s')
    (hp : (d.after (before.map SpecLine.directive)).pending? = some tc)
    (hm : tc.malformed = false) (he : Executor.execute tc.command tc.stdin s' = .error e s'')
    (hrest : ∀ l ∈ rest.head?, l.directive.isCommand = true) (err : String)
    (hf : t.failed = false) (hv : t.verbose = opts.verbose) :
    let t' := t.closedAll opts.filterDebug (d.closes (before.map SpecLine.directive)) as
    (takeEach opts d (before ++ rest) >>= close opts) (unlimited t out (⟨err, none⟩ : Sink) s) =
      .error (e.located t.label tc.line) (unlimited t'
        (out ++ blockOfLines (
          account opts t.label t.index (openEnded (d.stretches SpecLine.directive before)) as ++
          announcement opts t.label t'.index tc))
        ⟨err ++ blockOfLines ((d.answers (before.map SpecLine.directive)).filterMap
          (Taken.diagnostic? t.label)), none⟩ s'') := by
  intro t'
  rw [takeEach_append, bind_assoc, bind_of_ok (takeEach_unlimited d before err h hf hv),
    takeEach_close_of_error hrest (settle_of_error hp hm he _), String.append_assoc,
    ← blockOfLines_append]
  rfl

end Session

section

variable {σ : Type} [Executor σ]

/-- A run that halts has taken the lines before the one that closes the testcase whose command
cannot be started. -/
theorem runSpec_of_pending (opts : SpecOptions) (label : String) {bytes : List UInt8}
    {before rest : List SpecLine} {as : List (Option Execution)} {tc : Testcase} {e : RunError}
    {s s' s'' : σ} (hls : linesOfSpec bytes = before ++ rest)
    (h : Answered (Draft.empty.closes (before.map SpecLine.directive)) s as s')
    (hp : (Draft.empty.after (before.map SpecLine.directive)).pending? = some tc)
    (hm : tc.malformed = false) (he : Executor.execute tc.command tc.stdin s' = .error e s'')
    (hrest : ∀ l ∈ rest.head?, l.directive.isCommand = true) (out err : String) :
    runSpec opts label (.ofBytes bytes) (.unlimited out err s) =
      .error (e.located label tc.line)
        (.unlimited
          (out ++ blockOfLines (
            account opts label 1 (openEnded (stretches SpecLine.directive before)) as ++
            announcement opts label (1 + as.length) tc))
          (err ++ blockOfLines ((Draft.empty.answers (before.map SpecLine.directive)).filterMap
            (Taken.diagnostic? label)))
          s'') := by
  rw [Console.unlimited, runSpec_ofBytes, hls,
    Session.takeEach_close_of_pending h hp hm he hrest err rfl rfl, Draft.stretches_empty,
    ← h.length_eq]
  rfl

/-- **A run that halts.** It stops with the error of the command that cannot be started, placed at
the `!` line of its testcase. -/
theorem runSpec_of_halts (opts : SpecOptions) (label : String) {bytes : List UInt8} {s : σ}
    {h : Halt σ} (hh : Halts .empty (linesOfSpec bytes) s h) (out err : String) :
    runSpec opts label (.ofBytes bytes) (.unlimited out err s) =
      .error (h.error.located label h.testcase.line)
        (.unlimited
          (out ++ blockOfLines (
            account opts label 1 (openEnded (stretches SpecLine.directive h.before)) h.answers ++
            announcement opts label (1 + h.answers.length) h.testcase))
          (err ++ blockOfLines ((Draft.empty.answers (h.before.map SpecLine.directive)).filterMap
            (Taken.diagnostic? label)))
          h.host) := by
  obtain ⟨rest, hls, hrest⟩ := hh.exists_rest
  obtain ⟨hm, s', hanswered, he⟩ := hh.exists_answered
  exact runSpec_of_pending opts label hls hanswered hh.pending?_after hm he hrest out err

/-- **A run that returns** has all its testcases answered, and is the batch of the answers. -/
theorem exists_answered_of_runSpec {opts : SpecOptions} {label : String} {bytes : List UInt8}
    {out err : String} {s : σ} {results : Nat × Nat} {c : Console Sink Sink σ}
    (h : runSpec opts label (.ofBytes bytes) (.unlimited out err s) = .ok results c) :
    ∃ as, Answered (testcases SpecLine.directive (linesOfSpec bytes)) s as c.host ∧
      .ok results c = batch opts label (linesOfSpec bytes) as c.host out err := by
  rcases answered_or_halts .empty (linesOfSpec bytes) s with ⟨as, s', ha⟩ | ⟨halt, hh⟩
  · rw [Draft.due_empty] at ha
    have hbatch := runSpec_of_answered opts label bytes out err ha
    rw [Console.unlimited] at h
    rw [h] at hbatch
    cases hbatch
    exact ⟨as, ha, rfl⟩
  · rw [runSpec_of_halts opts label hh] at h
    cases h

end

end CommandSpec
