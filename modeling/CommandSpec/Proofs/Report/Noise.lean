import CommandSpec.Proofs.Report.Alignment

/-!
# Debug lines as noise

While debug lines are filtered, those that a command prints are noise: they may stand anywhere among
the other lines, or be missing (`SameUpToNoise`), and take no part in a check. The expected lines
are never filtered.

**Theorem (`check_noise`).** The verdict of a check that filters does not see noise. It is a
mismatch wherever a debug line is expected, and otherwise it accepts what a check that does not
filter accepts. A check that passes leaves the counts as they are and writes nothing, unless it has
filtered a line; then it lists all printed lines.
-/

namespace CommandSpec

/-- The two lists differ only in debug lines, which either may have anywhere. -/
inductive SameUpToNoise : List String → List String → Prop
  | nil : SameUpToNoise [] []
  | both {as bs : List String} (line : String) :
      SameUpToNoise as bs → SameUpToNoise (line :: as) (line :: bs)
  | left {as bs : List String} {line : String} :
      isDebug line = true → SameUpToNoise as bs → SameUpToNoise (line :: as) bs
  | right {as bs : List String} {line : String} :
      isDebug line = true → SameUpToNoise as bs → SameUpToNoise as (line :: bs)

theorem shown_false (actual : List String) : shown false actual = actual := by
  simp [shown, isHidden]

/-- What takes part in a comparison does not see noise. -/
theorem SameUpToNoise.shown_eq {as bs : List String} (h : SameUpToNoise as bs) :
    shown true as = shown true bs := by
  induction h with
  | nil => rfl
  | both line _ ih =>
    cases hline : isHidden true line with
    | true => rw [shown_hidden hline, shown_hidden hline, ih]
    | false => rw [shown_kept hline, shown_kept hline, ih]
  | @left _ _ line hline _ ih =>
    have hhidden : isHidden true line = true := hline
    rw [shown_hidden hhidden, ih]
  | @right _ _ line hline _ ih =>
    have hhidden : isHidden true line = true := hline
    rw [shown_hidden hhidden, ih]

/-- No debug line takes part in a comparison that filters. -/
theorem isDebug_of_mem_shown {actual : List String} {line : String} (h : line ∈ shown true actual) :
    isDebug line = false := by
  simpa [shown, isHidden] using (List.mem_filter.1 h).2

theorem shown_eq_self {actual : List String} (h : ∀ line ∈ actual, isDebug line = false) :
    shown true actual = actual :=
  List.filter_eq_self.2 fun line hline => by simp [isHidden, h line hline]

/-- The rows of a listing show every printed line with its number, debug lines marked. -/
theorem map_render_listingFrom (n : Nat) (actual : List String) :
    (listingFrom n actual).map Row.render =
      (actual.zipIdx n).map fun line =>
        Row.numbered line.2 (if isDebug line.1 then "~" else "=") line.1 := by
  induction actual generalizing n with
  | nil => rfl
  | cons a as ih =>
    rw [listingFrom, List.zipIdx_cons, List.map_cons, List.map_cons, ih]
    cases isDebug a <;> rfl

namespace Report

variable (channel command : String) (actual expected : List String) (filter : Bool) (t : Tally)
  (out : String)

/-- The verdict of a check that is never refused. -/
theorem answer?_check :
    answer? (check channel command actual expected filter (⟨t, ⟨out, none⟩⟩ : Report Sink)) =
      some (decide (shown filter actual = expected)) := by
  rw [check_unlimited, agrees_eq]
  rfl

/-- What a check that passes writes. -/
theorem channelRows_of_agrees (label : String) (k : Nat)
    (h : agrees filter actual expected = true) :
    channelRows label k filter channel command actual expected =
      if filter && actual.any isDebug then
        listingHeader channel :: (actual.zipIdx 1).map fun line =>
          Row.numbered line.2 (if isDebug line.1 then "~" else "=") line.1
      else [] := by
  rw [channelRows, if_pos h, ← hasDebug_eq, listing, map_render_listingFrom]
  rfl

/-- **Debug lines are noise to a check that filters.** -/
theorem check_noise :
    let verdict (filter : Bool) (actual : List String) : Option Bool :=
      answer? (check channel command actual expected filter (⟨t, ⟨out, none⟩⟩ : Report Sink))
    (verdict filter actual = some (decide (shown filter actual = expected))) ∧
      (∀ noisy, SameUpToNoise actual noisy → verdict true noisy = verdict true actual) ∧
      ((∃ e ∈ expected, isDebug e = true) → verdict true actual = some false) ∧
      ((∀ e ∈ expected, isDebug e = false) → verdict false actual = some true →
        verdict true actual = some true) ∧
      ∀ r, check channel command actual expected filter (⟨t, ⟨out, none⟩⟩ : Report Sink) =
          .ok true r →
        r.tally = t ∧ r.out.text = out ++ blockOfLines
          (if filter && actual.any isDebug then
            listingHeader channel :: (actual.zipIdx 1).map fun line =>
              Row.numbered line.2 (if isDebug line.1 then "~" else "=") line.1
          else []) := by
  intro verdict
  have hverdict (filter : Bool) (actual : List String) :
      verdict filter actual = some (decide (shown filter actual = expected)) :=
    answer?_check channel command actual expected filter t out
  refine ⟨hverdict filter actual, fun noisy hnoisy => ?_, ?_, fun hexpected hpass => ?_,
    fun r hr => ?_⟩
  · rw [hverdict, hverdict, hnoisy.shown_eq]
  · rintro ⟨e, he, hdebug⟩
    rw [hverdict, Option.some.injEq, decide_eq_false_iff_not]
    rintro rfl
    rw [isDebug_of_mem_shown he] at hdebug
    cases hdebug
  · rw [hverdict, Option.some.injEq, decide_eq_true_eq, shown_false] at hpass
    subst hpass
    rw [hverdict, shown_eq_self hexpected, decide_eq_true rfl]
  · rw [check_unlimited] at hr
    injection hr with hagrees hr
    subst hr
    rw [channelRows_of_agrees channel command actual expected filter _ _ hagrees, hagrees]
    exact ⟨rfl, rfl⟩

/-- A note before the expected line is noise; the same note is never found where it is expected. -/
theorem check_noise_note :
    let report : Report Sink := ⟨.start "t" false, ⟨"", none⟩⟩
    SameUpToNoise ["ok"] ["#note", "ok"] ∧
      answer? (check "stdout" "c" ["#note", "ok"] ["ok"] true report) =
        answer? (check "stdout" "c" ["ok"] ["ok"] true report) ∧
      answer? (check "stdout" "c" ["ok"] ["ok"] true report) = some true ∧
      answer? (check "stdout" "c" ["#note"] ["#note"] true report) = some false ∧
      ∃ r, check "stdout" "c" ["#note", "ok"] ["ok"] true report = .ok true r ∧
        r.tally = .start "t" false ∧
        r.out.text = blockOfLines ["--- stdout (OK) ---", "1 ~#note", "2 =ok"] := by
  intro report
  have hnoisy : SameUpToNoise ["ok"] ["#note", "ok"] := .right (by decide) (.both "ok" .nil)
  have hagrees : agrees true ["#note", "ok"] ["ok"] = true := by decide +kernel
  have hrun := check_unlimited (.start "t" false) "" "stdout" "c" ["#note", "ok"] ["ok"] true
  rw [hagrees] at hrun
  obtain ⟨-, hnoise, -, hpass, -⟩ :=
    check_noise "stdout" "c" ["ok"] ["ok"] true (.start "t" false) ""
  obtain ⟨-, -, hexpected, -, -⟩ :=
    check_noise "stdout" "c" ["#note"] ["#note"] true (.start "t" false) ""
  obtain ⟨-, -, -, -, hrows⟩ :=
    check_noise "stdout" "c" ["#note", "ok"] ["ok"] true (.start "t" false) ""
  obtain ⟨htally, htext⟩ := hrows _ hrun
  exact ⟨hnoisy, hnoise _ hnoisy, hpass (by decide) (by decide +kernel),
    hexpected ⟨"#note", by decide, by decide⟩, _, hrun, htally, htext.trans (by decide +kernel)⟩

end Report

end CommandSpec
