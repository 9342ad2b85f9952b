import CommandSpec.Proofs.Report.Rows
import CommandSpec.Proofs.Session.Course
import CommandSpec.Proofs.Session.Recorder
import Mathlib.Data.List.Induction

/-!
# Runs at limited sinks

A limited sink takes text up to and including its `n`-th newline and refuses what follows.

**Theorem (`runSpec_limited`).** Compare a run at limited sinks with the same run at unlimited ones.
If the unlimited run writes no more newlines than there is room for, both runs are the same.
Otherwise the limited run stops with the fault of the sink: each of its texts begins the unlimited
one, the one whose limit was hit ends at its last allowed newline, and the actions that were taken
begin those of the unlimited run and end with the write that failed.

The proof is an induction over the course of the run. Every write is of whole lines, so that cutting
the text of a log (`firstLines_append_of_le`) is cutting the first write that there is no room for.
`RoomFor` says that there is room for all writes of a log; it is split where the log is
(`roomFor_append`), with less room for the later part.
-/

namespace CommandSpec

/-! ## Texts and their first lines -/

/-- How many newlines a text has. -/
def newlines (text : String) : Nat :=
  text.toList.count '\n'

/-- The text up to and including its `n`-th newline. -/
def firstLines (n : Nat) (text : String) : String :=
  .ofList (splitAfterLines n text.toList).1

/-- A text that is cut nowhere within a line. -/
def Whole (text : String) : Prop :=
  text = "" ∨ text.toList.getLast? = some '\n'

/-- The text ends at its `n`-th newline; it is empty if that is none. -/
def EndsAt (n : Nat) (text : String) : Prop :=
  newlines text = n ∧ Whole text

theorem splitAfterLines_append (n : Nat) (cs : List Char) :
    (splitAfterLines n cs).1 ++ (splitAfterLines n cs).2 = cs := by
  induction cs generalizing n with
  | nil => cases n <;> rfl
  | cons c cs ih =>
    cases n with
    | zero => rfl
    | succ n =>
      rw [splitAfterLines, List.cons_append, ih]

/-- Where more newlines follow, the first lines have as many newlines as they may. -/
theorem count_splitAfterLines {n : Nat} {cs : List Char} (h : n ≤ cs.count '\n') :
    (splitAfterLines n cs).1.count '\n' = n := by
  induction cs generalizing n with
  | nil =>
    obtain rfl : n = 0 := by simpa using h
    rfl
  | cons c cs ih =>
    cases n with
    | zero => rfl
    | succ n =>
      by_cases hc : c = '\n'
      · subst hc
        rw [List.count_cons_self] at h
        simp [splitAfterLines, ih (Nat.le_of_succ_le_succ h)]
      · rw [List.count_cons_of_ne hc] at h
        simp [splitAfterLines, hc, ih h]

theorem getLast?_splitAfterLines {n : Nat} {cs : List Char} (h : n ≤ cs.count '\n') :
    (splitAfterLines n cs).1 = [] ∨ (splitAfterLines n cs).1.getLast? = some '\n' := by
  induction cs generalizing n with
  | nil => cases n <;> exact .inl rfl
  | cons c cs ih =>
    cases n with
    | zero => exact .inl rfl
    | succ n =>
      right
      by_cases hc : c = '\n'
      · subst hc
        rw [List.count_cons_self] at h
        rcases ih (Nat.le_of_succ_le_succ h) with hnil | hlast
        · simp [splitAfterLines, hnil]
        · simp [splitAfterLines, List.getLast?_cons, hlast]
      · rw [List.count_cons_of_ne hc] at h
        have hne : (splitAfterLines (n + 1) cs).1 ≠ [] := by
          intro hnil
          simpa [hnil] using count_splitAfterLines h
        simp [splitAfterLines, hc, List.getLast?_cons, (ih h).resolve_left hne]

/-- Whole lines that there is room for are taken, and use up room for as many newlines. -/
theorem splitAfterLines_append_of_le {n : Nat} {ls : List Char}
    (hls : ls = [] ∨ ls.getLast? = some '\n') (h : ls.count '\n' ≤ n) (cs : List Char) :
    splitAfterLines n (ls ++ cs) =
      (ls ++ (splitAfterLines (n - ls.count '\n') cs).1,
        (splitAfterLines (n - ls.count '\n') cs).2) := by
  induction ls generalizing n with
  | nil => simp
  | cons c ls ih =>
    have hlast : (c :: ls).getLast? = some '\n' := hls.resolve_left (List.cons_ne_nil _ _)
    have hpos : 0 < (c :: ls).count '\n' :=
      List.count_pos_iff.2 (List.mem_of_getLast? hlast)
    have htail : ls = [] ∨ ls.getLast? = some '\n' := by
      cases ls with
      | nil => exact .inl rfl
      | cons d ls => exact .inr (by rwa [List.getLast?_cons_cons] at hlast)
    obtain ⟨n, rfl⟩ : ∃ k, n = k + 1 := ⟨n - 1, by omega⟩
    rw [List.cons_append, splitAfterLines]
    by_cases hc : c = '\n'
    · subst hc
      rw [List.count_cons_self] at h ⊢
      rw [if_pos rfl, ih htail (Nat.le_of_succ_le_succ h), Nat.add_sub_add_right]
      rfl
    · rw [List.count_cons_of_ne hc] at h ⊢
      rw [if_neg hc, ih htail h]
      rfl

theorem newlines_append (s t : String) : newlines (s ++ t) = newlines s + newlines t := by
  simp [newlines]

theorem whole_blockOfLines (ls : List String) : Whole (blockOfLines ls) := by
  induction ls using List.reverseRecOn with
  | nil => exact .inl rfl
  | append_singleton ls l =>
    right
    rw [blockOfLines_append, blockOfLines_singleton]
    simp

theorem firstLines_append_of_le {n : Nat} {s : String} (hs : Whole s) (h : newlines s ≤ n)
    (t : String) : firstLines n (s ++ t) = s ++ firstLines (n - newlines s) t := by
  have hlist : s.toList = [] ∨ s.toList.getLast? = some '\n' :=
    hs.imp_left fun hnil => by rw [hnil]; rfl
  rw [firstLines, String.toList_append, splitAfterLines_append_of_le hlist h, String.ofList_append,
    String.ofList_toList]
  rfl

theorem endsAt_firstLines {n : Nat} {s : String} (h : n ≤ newlines s) :
    EndsAt n (firstLines n s) := by
  refine ⟨by rw [newlines, firstLines, String.toList_ofList, count_splitAfterLines h], ?_⟩
  refine (getLast?_splitAfterLines h).imp (fun hnil => ?_) fun hlast => ?_
  · rw [firstLines, hnil]
  · rwa [firstLines, String.toList_ofList]

theorem firstLines_begins (n : Nat) (s : String) : (firstLines n s).toList <+: s.toList := by
  rw [firstLines, String.toList_ofList]
  exact ⟨_, splitAfterLines_append n s.toList⟩

/-! ## Sinks -/

theorem Sink.put_of_le {n : Nat} {text : String} (hw : Whole text) (h : newlines text ≤ n)
    (out : String) :
    Sink.put text ⟨out, some n⟩ = .ok () ⟨out ++ text, some (n - newlines text)⟩ := by
  have hsplit : splitAfterLines n text.toList = (text.toList, []) := by
    have hlist : text.toList = [] ∨ text.toList.getLast? = some '\n' :=
      hw.imp_left fun hnil => by rw [hnil]; rfl
    have hempty (k : Nat) : splitAfterLines k [] = ([], []) := by cases k <;> rfl
    simpa [hempty] using splitAfterLines_append_of_le hlist h []
  simp [put, hsplit, newlines]

theorem Sink.put_of_lt {n : Nat} {text : String} (h : n < newlines text) (out : String) :
    Sink.put text ⟨out, some n⟩ = .error .closedChannel ⟨out ++ firstLines n text, some 0⟩ := by
  have hcount : (splitAfterLines n text.toList).1.count '\n' = n :=
    count_splitAfterLines (Nat.le_of_lt h)
  have hrest : (splitAfterLines n text.toList).2 ≠ [] := by
    intro hnil
    have htotal := congrArg (List.count '\n') (splitAfterLines_append n text.toList)
    rw [hnil, List.append_nil, hcount] at htotal
    exact absurd htotal (Nat.ne_of_lt h)
  simp [put, firstLines, hcount, hrest]

/-! ## What a log writes -/

/-- The lines of the report that an action writes. -/
def Action.reported : Action → List String
  | report text => [text]
  | _ => []

/-- The lines of diagnostics that an action writes. -/
def Action.told : Action → List String
  | diagnose text => [text]
  | _ => []

/-- The commands that an action runs, with what they are fed. -/
def Action.called : Action → List (String × List String)
  | call command stdin _ _ => [(command, stdin)]
  | _ => []

/-- The commands that the actions of a log run, with what they are fed. -/
def callsOf (log : List Action) : List (String × List String) :=
  log.flatMap Action.called

/-- What the actions of a log write to the report. -/
def reportOf (log : List Action) : String :=
  blockOfLines (log.flatMap Action.reported)

/-- What the actions of a log write to the diagnostics. -/
def diagnosticsOf (log : List Action) : String :=
  blockOfLines (log.flatMap Action.told)

theorem callsOf_append (es es' : List Action) :
    callsOf (es ++ es') = callsOf es ++ callsOf es' := by
  simp [callsOf]

theorem reportOf_append (es es' : List Action) :
    reportOf (es ++ es') = reportOf es ++ reportOf es' := by
  simp [reportOf, blockOfLines_append]

theorem diagnosticsOf_append (es es' : List Action) :
    diagnosticsOf (es ++ es') = diagnosticsOf es ++ diagnosticsOf es' := by
  simp [diagnosticsOf, blockOfLines_append]

theorem whole_reportOf (log : List Action) : Whole (reportOf log) :=
  whole_blockOfLines _

theorem whole_diagnosticsOf (log : List Action) : Whole (diagnosticsOf log) :=
  whole_blockOfLines _

/-- There is room for what a log writes: `n` lines of the report and `m` lines of diagnostics. -/
def RoomFor (n m : Nat) (log : List Action) : Prop :=
  newlines (reportOf log) ≤ n ∧ newlines (diagnosticsOf log) ≤ m

theorem roomFor_nil (n m : Nat) : RoomFor n m [] := ⟨Nat.zero_le _, Nat.zero_le _⟩

theorem roomFor_append {n m : Nat} {es es' : List Action} :
    RoomFor n m (es ++ es') ↔ RoomFor n m es ∧
      RoomFor (n - newlines (reportOf es)) (m - newlines (diagnosticsOf es)) es' := by
  simp only [RoomFor, reportOf_append, diagnosticsOf_append, newlines_append]
  omega

/-- An action for which there is no room any more is a write to a channel that has none. -/
theorem write_of_not_roomFor {n m : Nat} {es : List Action} {a : Action} (hes : RoomFor n m es)
    (h : ¬ RoomFor n m (es ++ [a])) :
    (∃ text, a = .report text ∧ n < newlines (reportOf (es ++ [a]))) ∨
      ∃ text, a = .diagnose text ∧ m < newlines (diagnosticsOf (es ++ [a])) := by
  have hempty (s : String) : newlines (s ++ blockOfLines []) = newlines s := by
    rw [newlines_append]
    rfl
  simp only [RoomFor, reportOf_append, diagnosticsOf_append] at hes h ⊢
  cases a with
  | report text =>
    have hdiagnostics : diagnosticsOf [.report text] = blockOfLines [] := rfl
    rw [hdiagnostics, hempty] at h
    exact .inl ⟨text, rfl, by omega⟩
  | diagnose text =>
    have hreport : reportOf [.diagnose text] = blockOfLines [] := rfl
    rw [hreport, hempty] at h
    exact .inr ⟨text, rfl, by omega⟩
  | call _ _ _ _ | read _ =>
    refine absurd ?_ h
    rw [← hempty (reportOf es), ← hempty (diagnosticsOf es)] at hes
    exact hes

section

variable {es log : List Action}

theorem begins_firstLines_reportOf (h : es <+: log) (n : Nat) :
    (firstLines n (reportOf es)).toList <+: (reportOf log).toList := by
  obtain ⟨later, rfl⟩ := h
  rw [reportOf_append, String.toList_append]
  exact (firstLines_begins n _).trans (List.prefix_append _ _)

theorem begins_firstLines_diagnosticsOf (h : es <+: log) (m : Nat) :
    (firstLines m (diagnosticsOf es)).toList <+: (diagnosticsOf log).toList := by
  obtain ⟨later, rfl⟩ := h
  rw [diagnosticsOf_append, String.toList_append]
  exact (firstLines_begins m _).trans (List.prefix_append _ _)

theorem begins_callsOf (h : es <+: log) : callsOf es <+: callsOf log := by
  obtain ⟨later, rfl⟩ := h
  rw [callsOf_append]
  exact List.prefix_append _ _

/-- Where a log is cut at the first action that there is no room for, the text of the channel that
had no room ends at its last allowed newline. -/
theorem endsAt_of_not_roomFor {n m : Nat} {a : Action} (h : es ++ [a] <+: log)
    (hes : RoomFor n m es) (ha : ¬ RoomFor n m (es ++ [a])) :
    (∃ text, a = .report text) ∧ n < newlines (reportOf log) ∧
        EndsAt n (firstLines n (reportOf (es ++ [a]))) ∨
      (∃ text, a = .diagnose text) ∧ m < newlines (diagnosticsOf log) ∧
        EndsAt m (firstLines m (diagnosticsOf (es ++ [a]))) := by
  obtain ⟨later, rfl⟩ := h
  rw [reportOf_append (es ++ [a]), diagnosticsOf_append (es ++ [a]), newlines_append,
    newlines_append]
  refine (write_of_not_roomFor hes ha).imp ?_ ?_
  · rintro ⟨text, rfl, hlt⟩
    exact ⟨⟨text, rfl⟩, by omega, endsAt_firstLines (Nat.le_of_lt hlt)⟩
  · rintro ⟨text, rfl, hlt⟩
    exact ⟨⟨text, rfl⟩, by omega, endsAt_firstLines (Nat.le_of_lt hlt)⟩

end

/-! ## Actions at sinks -/

section

variable {σ α : Type}

/-- A console with sinks that have room for `n` lines of the report and `m` lines of diagnostics. -/
def Console.limited (n m : Nat) (out err : String) (host : σ) : Console Sink Sink σ :=
  ⟨⟨out, some n⟩, ⟨err, some m⟩, host⟩

theorem report_limited_of_le {n : Nat} {text : String} (h : newlines (blockOfLines [text]) ≤ n)
    (m : Nat) (out err : String) (host : σ) :
    Running.report text (.limited n m out err host) =
      .ok () (.limited (n - newlines (blockOfLines [text])) m (out ++ blockOfLines [text]) err
        host) := by
  have hput := Sink.put_of_le (whole_blockOfLines [text]) h out
  rw [blockOfLines_singleton] at hput ⊢
  exact Running.report_of_ok hput

theorem report_limited_of_lt {n : Nat} {text : String} (h : n < newlines (blockOfLines [text]))
    (m : Nat) (out err : String) (host : σ) :
    Running.report text (.limited n m out err host) =
      .error (.ofFault .closedChannel)
        (.limited 0 m (out ++ firstLines n (blockOfLines [text])) err host) := by
  have hput := Sink.put_of_lt h out
  rw [blockOfLines_singleton] at hput ⊢
  exact Running.report_of_error hput

theorem diagnose_limited_of_le {m : Nat} {text : String} (h : newlines (blockOfLines [text]) ≤ m)
    (n : Nat) (out err : String) (host : σ) :
    Running.diagnose text (.limited n m out err host) =
      .ok () (.limited n (m - newlines (blockOfLines [text])) out (err ++ blockOfLines [text])
        host) := by
  have hput := Sink.put_of_le (whole_blockOfLines [text]) h err
  rw [blockOfLines_singleton] at hput ⊢
  exact Running.diagnose_of_ok hput

theorem diagnose_limited_of_lt {m : Nat} {text : String} (h : m < newlines (blockOfLines [text]))
    (n : Nat) (out err : String) (host : σ) :
    Running.diagnose text (.limited n m out err host) =
      .error (.ofFault .closedChannel)
        (.limited n 0 out (err ++ firstLines m (blockOfLines [text])) host) := by
  have hput := Sink.put_of_lt h err
  rw [blockOfLines_singleton] at hput ⊢
  exact Running.diagnose_of_error hput

variable [Executor σ]

/-- A setting with sinks. -/
abbrev Setting.sinks (refill : EStateM Fault σ (List UInt8)) : Setting where
  Out := Sink
  Err := Sink
  Place := σ
  refill := refill

variable (refill : EStateM Fault σ (List UInt8))

/-- An action that there is room for does the same at limited sinks as at unlimited ones. -/
theorem take_sinks (a : Action) (out err : String) (host : σ) :
    ∃ result : EStateM.Result RunError σ a.Answer,
      a.take (.sinks refill) (.unlimited out err host) =
        seen (.unlimited (out ++ reportOf [a]) (err ++ diagnosticsOf [a])) result ∧
      ∀ n m, RoomFor n m [a] → a.take (.sinks refill) (.limited n m out err host) =
        seen (.limited (n - newlines (reportOf [a])) (m - newlines (diagnosticsOf [a]))
          (out ++ reportOf [a]) (err ++ diagnosticsOf [a])) result := by
  have hempty (s : String) : s ++ blockOfLines [] = s := String.append_empty
  cases a with
  | report text =>
    refine ⟨.ok () host, ?_, fun n m h => ?_⟩
    · show Running.report text (.unlimited out err host) =
        .ok () (.unlimited (out ++ blockOfLines [text]) (err ++ blockOfLines []) host)
      rw [hempty, blockOfLines_singleton]
      rfl
    · show Running.report text (.limited n m out err host) =
        .ok () (.limited (n - newlines (blockOfLines [text])) (m - 0)
          (out ++ blockOfLines [text]) (err ++ blockOfLines []) host)
      rw [hempty]
      exact report_limited_of_le h.1 m out err host
  | diagnose text =>
    refine ⟨.ok () host, ?_, fun n m h => ?_⟩
    · show Running.diagnose text (.unlimited out err host) =
        .ok () (.unlimited (out ++ blockOfLines []) (err ++ blockOfLines [text]) host)
      rw [hempty, blockOfLines_singleton]
      rfl
    · show Running.diagnose text (.limited n m out err host) =
        .ok () (.limited (n - 0) (m - newlines (blockOfLines [text]))
          (out ++ blockOfLines []) (err ++ blockOfLines [text]) host)
      rw [hempty]
      exact diagnose_limited_of_le h.2 n out err host
  | call command stdin label line =>
    refine ⟨seen Console.host (Action.take (.sinks refill) (.call command stdin label line)
      (.unlimited out err host)), ?_, fun n m _ => ?_⟩ <;>
      cases h : Executor.execute command stdin host <;>
      simp [Action.take, Console.unlimited, Console.limited, seen, h, reportOf, diagnosticsOf,
        Action.reported, Action.told, newlines]
  | read label =>
    refine ⟨seen Console.host (Action.take (.sinks refill) (.read label)
      (.unlimited out err host)), ?_, fun n m _ => ?_⟩ <;>
      cases h : refill host <;>
      simp [Action.take, Running.atHost, Console.unlimited, Console.limited, seen, h, reportOf,
        diagnosticsOf, Action.reported, Action.told, newlines]

/-- An action that there is no room for writes as much as there is room for, and fails. -/
theorem take_limited_of_not_roomFor {n m : Nat} {a : Action} (h : ¬ RoomFor n m [a])
    (out err : String) (host : σ) :
    ∃ n' m', a.take (.sinks refill) (.limited n m out err host) =
      .error (.ofFault .closedChannel)
        (.limited n' m' (out ++ firstLines n (reportOf [a]))
          (err ++ firstLines m (diagnosticsOf [a])) host) := by
  have hempty (s : String) (k : Nat) : s ++ firstLines k (blockOfLines []) = s := by
    cases k <;> exact String.append_empty
  cases a with
  | report text =>
    have hlt : n < newlines (blockOfLines [text]) := by
      by_contra hle
      exact h ⟨Nat.le_of_not_lt hle, Nat.zero_le m⟩
    refine ⟨0, m, ?_⟩
    show Running.report text (.limited n m out err host) =
      .error _ (.limited 0 m (out ++ firstLines n (blockOfLines [text]))
        (err ++ firstLines m (blockOfLines [])) host)
    rw [hempty]
    exact report_limited_of_lt hlt m out err host
  | diagnose text =>
    have hlt : m < newlines (blockOfLines [text]) := by
      by_contra hle
      exact h ⟨Nat.zero_le n, Nat.le_of_not_lt hle⟩
    refine ⟨n, 0, ?_⟩
    show Running.diagnose text (.limited n m out err host) =
      .error _ (.limited n 0 (out ++ firstLines n (blockOfLines []))
        (err ++ firstLines m (blockOfLines [text])) host)
    rw [hempty]
    exact diagnose_limited_of_lt hlt n out err host
  | call command stdin label line => exact absurd ⟨Nat.zero_le n, Nat.zero_le m⟩ h
  | read label => exact absurd ⟨Nat.zero_le n, Nat.zero_le m⟩ h

/-! ## Courses at sinks -/

/-- A course that there is room for does the same at limited sinks as at unlimited ones. -/
theorem run_sinks (c : Course α) (out err : String) (host : σ) :
    ∃ (log : List Action) (result : EStateM.Result RunError σ α),
      c.log (.sinks refill) (.unlimited out err host) = log ∧
      c.run (.sinks refill) (.unlimited out err host) =
        seen (.unlimited (out ++ reportOf log) (err ++ diagnosticsOf log)) result ∧
      ∀ n m, RoomFor n m log →
        c.log (.sinks refill) (.limited n m out err host) = log ∧
        c.run (.sinks refill) (.limited n m out err host) =
          seen (.limited (n - newlines (reportOf log)) (m - newlines (diagnosticsOf log))
            (out ++ reportOf log) (err ++ diagnosticsOf log)) result := by
  induction c generalizing out err host with
  | done a =>
    refine ⟨[], .ok a host, rfl, ?_, fun n m _ => ⟨rfl, ?_⟩⟩ <;>
      simp [Course.run, pure, EStateM.pure, seen, reportOf, diagnosticsOf, newlines]
  | act a rest ih =>
    obtain ⟨result, hfree, htight⟩ := take_sinks refill a out err host
    cases result with
    | error e host' =>
      refine ⟨[a], .error e host', Course.log_act_of_error hfree, Course.run_act_of_error hfree,
        fun n m hroom => ?_⟩
      exact ⟨Course.log_act_of_error (htight n m hroom), Course.run_act_of_error (htight n m hroom)⟩
    | ok answer host' =>
      obtain ⟨log, result, hlog, hrun, hfit⟩ :=
        ih answer (out ++ reportOf [a]) (err ++ diagnosticsOf [a]) host'
      have htexts : reportOf ([a] ++ log) = reportOf [a] ++ reportOf log ∧
          diagnosticsOf ([a] ++ log) = diagnosticsOf [a] ++ diagnosticsOf log :=
        ⟨reportOf_append _ _, diagnosticsOf_append _ _⟩
      refine ⟨[a] ++ log, result, ?_, ?_, fun n m hroom => ?_⟩
      · rw [Course.log_act_of_ok hfree, hlog]
        rfl
      · rw [Course.run_act_of_ok hfree, hrun, htexts.1, htexts.2, String.append_assoc,
          String.append_assoc]
      · obtain ⟨hone, hrest⟩ := roomFor_append.1 hroom
        obtain ⟨hlog, hrun⟩ := hfit _ _ hrest
        refine ⟨?_, ?_⟩
        · rw [Course.log_act_of_ok (htight n m hone), hlog]
          rfl
        · rw [Course.run_act_of_ok (htight n m hone), hrun, htexts.1, htexts.2,
            newlines_append, newlines_append, String.append_assoc, String.append_assoc,
            Nat.sub_sub, Nat.sub_sub]

/-- A course that there is no room for is followed up to the first action that there is no room
for. -/
theorem run_limited_of_not_roomFor (c : Course α) {n m : Nat} (out err : String) (host : σ)
    (h : ¬ RoomFor n m (c.log (.sinks refill) (.unlimited out err host))) :
    ∃ (es : List Action) (a : Action) (n' m' : Nat) (host' : σ),
      es ++ [a] <+: c.log (.sinks refill) (.unlimited out err host) ∧
      RoomFor n m es ∧ ¬ RoomFor n m (es ++ [a]) ∧
      c.log (.sinks refill) (.limited n m out err host) = es ++ [a] ∧
      c.run (.sinks refill) (.limited n m out err host) = .error (.ofFault .closedChannel)
        (.limited n' m' (out ++ firstLines n (reportOf (es ++ [a])))
          (err ++ firstLines m (diagnosticsOf (es ++ [a]))) host') := by
  induction c generalizing n m out err host with
  | done a => exact absurd (roomFor_nil n m) h
  | act a rest ih =>
    by_cases hone : RoomFor n m [a]
    · obtain ⟨result, hfree, htight⟩ := take_sinks refill a out err host
      cases result with
      | error e host' =>
        rw [Course.log_act_of_error hfree] at h
        exact absurd hone h
      | ok answer host' =>
        rw [Course.log_act_of_ok hfree, ← List.singleton_append, roomFor_append] at h
        obtain ⟨es, b, n', m', host'', hprefix, hes, hb, hlog, hrun⟩ :=
          ih answer _ _ host' fun hroom => h ⟨hone, hroom⟩
        refine ⟨[a] ++ es, b, n', m', host'', ?_, roomFor_append.2 ⟨hone, hes⟩, ?_, ?_, ?_⟩
        · rw [Course.log_act_of_ok hfree]
          exact List.cons_prefix_cons.2 ⟨rfl, hprefix⟩
        · rw [List.append_assoc, roomFor_append]
          exact fun hroom => hb hroom.2
        · rw [Course.log_act_of_ok (htight n m hone), hlog]
          rfl
        · rw [Course.run_act_of_ok (htight n m hone), hrun, List.append_assoc, reportOf_append [a],
            diagnosticsOf_append [a], firstLines_append_of_le (whole_reportOf _) hone.1,
            firstLines_append_of_le (whole_diagnosticsOf _) hone.2, ← String.append_assoc,
            ← String.append_assoc]
    · obtain ⟨n', m', hcut⟩ := take_limited_of_not_roomFor refill hone out err host
      refine ⟨[], a, n', m', host, ?_, roomFor_nil n m, hone, Course.log_act_of_error hcut,
        Course.run_act_of_error hcut⟩
      rw [Course.log]
      exact List.cons_prefix_cons.2 ⟨rfl, List.nil_prefix⟩

end

/-! ## Runs at limited sinks -/

/-- What both sinks of a console took, and its host. -/
def Console.taken {σ : Type} (c : Console Sink Sink σ) : (String × String) × σ :=
  ((c.report.text, c.diagnostics.text), c.host)

/-- **A limit cuts a run off and changes nothing else.** The run at sinks with room for `n` lines of
the report and `m` lines of diagnostics is told by the run at unlimited sinks, whose last console is
`whole`. Both follow one course: what is logged of it are the actions taken, with the commands run
among them. -/
theorem runSpec_limited {σ : Type} [Executor σ] (opts : SpecOptions) (label : String)
    (source : Source σ) (host : σ) (n m : Nat) :
    ∃ course : Course (Nat × Nat),
      (∀ S : Setting,
        runSpec opts label (S.source source.bytes source.refills) = course.run S) ∧
      let S := Setting.sinks source.refill
      let free : Console Sink Sink σ := ⟨.unlimited, .unlimited, host⟩
      let tight : Console Sink Sink σ := ⟨.limited n, .limited m, host⟩
      let whole := finalState (runSpec opts label source free)
      (newlines whole.report.text ≤ n ∧ newlines whole.diagnostics.text ≤ m →
        seen Console.taken (runSpec opts label source tight) =
            seen Console.taken (runSpec opts label source free) ∧
          course.log S tight = course.log S free) ∧
      (¬ (newlines whole.report.text ≤ n ∧ newlines whole.diagnostics.text ≤ m) →
        ∃ (cut : Console Sink Sink σ) (es : List Action) (a : Action),
          runSpec opts label source tight =
            .error { kind := .io, message := "writer closed" } cut ∧
          cut.report.text.toList <+: whole.report.text.toList ∧
          cut.diagnostics.text.toList <+: whole.diagnostics.text.toList ∧
          ((∃ text, a = .report text) ∧ n < newlines whole.report.text ∧
              EndsAt n cut.report.text ∨
            (∃ text, a = .diagnose text) ∧ m < newlines whole.diagnostics.text ∧
              EndsAt m cut.diagnostics.text) ∧
          course.log S tight = es ++ [a] ∧ es ++ [a] <+: course.log S free ∧
          callsOf (course.log S tight) <+: callsOf (course.log S free)) := by
  obtain ⟨course, hcourse⟩ := runSpec_course opts label source.bytes source.refills
  refine ⟨course, hcourse, ?_⟩
  intro S free tight whole
  have hrun : (runSpec opts label source : Running Sink Sink σ (Nat × Nat)) = course.run S :=
    hcourse S
  obtain ⟨log, result, hlog, hfree, htight⟩ := run_sinks source.refill course "" "" host
  have hwhole : whole = .unlimited (reportOf log) (diagnosticsOf log) (finalState result) := by
    show finalState (runSpec opts label source free) = _
    rw [hrun]
    show finalState (course.run S (.unlimited "" "" host)) = _
    rw [hfree, finalState_seen, String.empty_append, String.empty_append]
  rw [hrun, hwhole]
  refine ⟨fun hroom => ?_, fun hroom => ?_⟩
  · obtain ⟨hsame, hcut⟩ := htight n m hroom
    refine ⟨?_, hsame.trans hlog.symm⟩
    show seen Console.taken (course.run S (.limited n m "" "" host)) =
      seen Console.taken (course.run S (.unlimited "" "" host))
    rw [hcut, hfree, seen_seen, seen_seen]
    rfl
  · obtain ⟨es, a, n', m', host', hprefix, hes, ha, hcutlog, hcut⟩ :=
      run_limited_of_not_roomFor source.refill course "" "" host (hlog ▸ hroom)
    rw [String.empty_append, String.empty_append] at hcut
    rw [hlog] at hprefix
    refine ⟨_, es, a, hcut, begins_firstLines_reportOf hprefix n,
      begins_firstLines_diagnosticsOf hprefix m, endsAt_of_not_roomFor hprefix hes ha, hcutlog,
      ?_, ?_⟩
    · show es ++ [a] <+: course.log S (.unlimited "" "" host)
      rw [hlog]
      exact hprefix
    · show callsOf (course.log S (.limited n m "" "" host)) <+:
        callsOf (course.log S (.unlimited "" "" host))
      rw [hcutlog, hlog]
      exact begins_callsOf hprefix

/-- The first line of the report is taken; the second one is refused, and nothing is run after
that. -/
example :
    (finalState (runSpec { verbose := true } "t" (.ofString "!a\n!b\n")
      ⟨Sink.limited 1, Sink.unlimited, ({} : Parrot)⟩)).report = ⟨"t #1: !a\n", some 0⟩ := by
  decide +kernel

end CommandSpec
