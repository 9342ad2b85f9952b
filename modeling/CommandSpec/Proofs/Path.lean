import CommandSpec.Path
import Mathlib.Data.List.DropRight

/-!
# Splitting a path

A path is its start and the pieces of its body. Most pieces may stand anywhere, but not every start
goes with every first piece (`Precedes`): what follows a leading `.` begins with a slash, and
without a start the first piece must mean something. Where start and pieces go together, the path
that they make is cut into the same start and pieces again (`splitStart_append`), and so its
components can be read off (`components_append`).

**Theorem (`exists_splitName?_iff`).** A path splits exactly if it has several components and the
last of them is a name.

**Theorem (`components_splitName?`).** The directory that a path splits into has the components of
the path without the last one, and the name is that last one.
-/

namespace CommandSpec.Path

/-! ## Pieces -/

theorem pieces_eq_splitOn (cs : List Char) : pieces cs = cs.splitOn '/' := by
  induction cs with
  | nil => rfl
  | cons c cs ih =>
    obtain ⟨piece, rest, heq⟩ := List.exists_cons_of_ne_nil (List.splitOn_ne_nil '/' cs)
    rw [pieces, List.splitOn_cons_eq_if_modifyHead, ih, heq]
    by_cases h : c = '/' <;> simp [h]

theorem join_eq_intercalate (ps : List (List Char)) : join ps = ['/'].intercalate ps := by
  fun_induction join ps with
  | case1 => rfl
  | case2 piece => rw [List.intercalate_singleton]
  | case3 piece rest hrest ih =>
    obtain ⟨piece', rest, rfl⟩ := List.exists_cons_of_ne_nil hrest
    rw [ih, List.intercalate_cons_cons, List.append_assoc, List.singleton_append]

theorem pieces_ne_nil (cs : List Char) : pieces cs ≠ [] := by
  rw [pieces_eq_splitOn]
  exact List.splitOn_ne_nil '/' cs

theorem pieces_join {ps : List (List Char)} (hps : ps ≠ []) (h : ∀ piece ∈ ps, '/' ∉ piece) :
    pieces (join ps) = ps := by
  rw [pieces_eq_splitOn, join_eq_intercalate, List.splitOn_intercalate '/' h hps]

theorem join_pieces (cs : List Char) : join (pieces cs) = cs := by
  rw [join_eq_intercalate, pieces_eq_splitOn, List.intercalate_splitOn]

theorem slash_not_mem_of_mem_pieces {cs piece : List Char} (h : piece ∈ pieces cs) :
    '/' ∉ piece := by
  induction cs generalizing piece with
  | nil =>
    rw [List.mem_singleton.1 h]
    exact List.not_mem_nil
  | cons c cs ih =>
    obtain ⟨first, rest, heq⟩ := List.exists_cons_of_ne_nil (pieces_ne_nil cs)
    rw [heq] at ih
    rw [pieces, heq] at h
    by_cases hc : c = '/'
    · rw [if_pos hc] at h
      rcases List.mem_cons.1 h with rfl | h
      · exact List.not_mem_nil
      · exact ih h
    · rw [if_neg hc] at h
      rcases List.mem_cons.1 h with rfl | h
      · rw [List.mem_cons, not_or]
        exact ⟨Ne.symm hc, ih List.mem_cons_self⟩
      · exact ih (List.mem_cons_of_mem _ h)

/-! ## Pieces that mean something -/

/-- The pieces that are components. -/
def solid (ps : List (List Char)) : List (List Char) :=
  ps.filter (!isIdle ·)

theorem solid_append (ps qs : List (List Char)) : solid (ps ++ qs) = solid ps ++ solid qs :=
  List.filter_append ..

theorem solid_cons {piece : List Char} (ps : List (List Char)) (hidle : isIdle piece = false) :
    solid (piece :: ps) = piece :: solid ps :=
  List.filter_cons_of_pos (by rw [hidle]; rfl)

theorem solid_eq_nil_iff {ps : List (List Char)} :
    solid ps = [] ↔ ∀ piece ∈ ps, isIdle piece = true := by
  simp [solid]

theorem solid_dropIdleEnd (ps : List (List Char)) : solid (dropIdleEnd ps) = solid ps := by
  have hidle : solid (ps.rtakeWhile isIdle) = [] :=
    solid_eq_nil_iff.2 fun _ => List.mem_rtakeWhile_imp
  have hsplit : ps.rdropWhile isIdle ++ ps.rtakeWhile isIdle = ps :=
    List.rdropWhile_append_rtakeWhile
  conv_rhs => rw [← hsplit, solid_append, hidle, List.append_nil]
  rfl

/-- The last piece that means something, if there is one, with what surrounds it. -/
theorem splitLast?_cases (ps : List (List Char)) :
    splitLast? ps = none ∧ solid ps = [] ∨
      ∃ before piece after, splitLast? ps = some (before, piece) ∧ ps = before ++ piece :: after ∧
        isIdle piece = false ∧ solid after = [] := by
  have hsplit : ps.reverse.takeWhile isIdle ++ ps.reverse.dropWhile isIdle = ps.reverse :=
    List.takeWhile_append_dropWhile
  have hidle : ∀ piece ∈ ps.reverse.takeWhile isIdle, isIdle piece = true := fun _ =>
    List.mem_takeWhile_imp
  unfold splitLast?
  cases h : ps.reverse.dropWhile isIdle with
  | nil =>
    rw [h, List.append_nil] at hsplit
    rw [hsplit] at hidle
    exact .inl ⟨rfl, solid_eq_nil_iff.2 fun piece hpiece => hidle piece (List.mem_reverse.2 hpiece)⟩
  | cons piece before =>
    have hpiece := List.head?_dropWhile_not isIdle ps.reverse
    rw [h] at hsplit hpiece
    refine .inr ⟨before.reverse, piece, (ps.reverse.takeWhile isIdle).reverse, rfl, ?_, hpiece, ?_⟩
    · simpa using (congrArg List.reverse hsplit).symm
    · exact solid_eq_nil_iff.2 fun q hq => hidle q (List.mem_reverse.1 hq)

/-! ## The start of a path -/

/-- Whether a path can start so before these pieces. -/
def Precedes : Option Component → List (List Char) → Prop
  | some .root, _ => True
  | some .here, ps => ps.head? = some []
  | none, ps => ps = [[]] ∨ ∀ piece ∈ ps.head?, isIdle piece = false
  | some _, _ => False

theorem startText_append_splitStart (cs : List Char) :
    startText (splitStart cs).1 ++ (splitStart cs).2 = cs := by
  fun_cases splitStart cs <;> rfl

theorem Precedes.bare {start : Option Component} {ps : List (List Char)} (h : Precedes start ps) :
    Precedes start [[]] := by
  match start with
  | some .root => trivial
  | some .here => rfl
  | none => exact .inl rfl

theorem Precedes.left {start : Option Component} {ps qs : List (List Char)}
    (h : Precedes start (ps ++ qs)) (hps : ps ≠ []) : Precedes start ps := by
  obtain ⟨first, more, rfl⟩ := List.exists_cons_of_ne_nil hps
  match start with
  | some .root => trivial
  | some .here => exact h
  | none =>
    refine h.imp (fun h => ?_) id
    rw [List.cons_append, List.cons.injEq, List.append_eq_nil_iff] at h
    rw [h.1, h.2.1]

theorem precedes_splitStart (cs : List Char) :
    Precedes (splitStart cs).1 (pieces (splitStart cs).2) := by
  unfold splitStart
  split
  · trivial
  · rfl
  · rfl
  · rename_i hroot hdot hhere
    cases cs with
    | nil => exact .inl rfl
    | cons c rest =>
      right
      obtain ⟨first, more, heq⟩ := List.exists_cons_of_ne_nil (pieces_ne_nil rest)
      have hrest := join_pieces rest
      have hc : c ≠ '/' := fun h => hroot rest (by rw [h])
      rw [heq] at hrest
      simp only [pieces, heq, hc, if_false, List.head?_cons, Option.mem_some_iff, forall_eq']
      -- An idle first piece is a `.` with the end of the text or a slash after it.
      by_contra hidle
      obtain ⟨rfl, rfl⟩ : c = '.' ∧ first = [] := by simpa [isIdle] using hidle
      cases more with
      | nil => exact hdot (by rw [← hrest]; rfl)
      | cons piece more => exact hhere _ (by rw [← hrest]; rfl)

theorem splitStart_of_head {cs first : List Char} (hfirst : (pieces cs).head? = some first)
    (hidle : isIdle first = false) : splitStart cs = (none, cs) := by
  unfold splitStart
  split
  · obtain rfl : [] = first := by simpa [pieces] using hfirst
    cases hidle
  · obtain rfl : ['.'] = first := by simpa [pieces] using hfirst
    cases hidle
  · obtain rfl : ['.'] = first := by simpa [pieces] using hfirst
    cases hidle
  · rfl

/-- A start and pieces that go together are found again in the text that they make. -/
theorem splitStart_append {start : Option Component} {ps : List (List Char)} (hps : ps ≠ [])
    (hslash : ∀ piece ∈ ps, '/' ∉ piece) (h : Precedes start ps) :
    splitStart (startText start ++ join ps) = (start, join ps) := by
  obtain ⟨first, more, rfl⟩ := List.exists_cons_of_ne_nil hps
  match start with
  | some .root => rfl
  | some .here =>
    obtain rfl : first = [] := by simpa [Precedes] using h
    cases more with
    | nil => rfl
    | cons piece more => rfl
  | none =>
    rcases h with h | hidle
    · rw [h]
      rfl
    · have hfirst : (pieces (join (first :: more))).head? = some first := by
        rw [pieces_join hps hslash, List.head?_cons]
      exact splitStart_of_head hfirst (hidle first rfl)

theorem components_eq (path : List Char) :
    components path =
      (splitStart path).1.toList ++ (solid (pieces (splitStart path).2)).map .ofPiece :=
  rfl

theorem components_append {start : Option Component} {ps : List (List Char)} (hps : ps ≠ [])
    (hslash : ∀ piece ∈ ps, '/' ∉ piece) (h : Precedes start ps) :
    components (startText start ++ join ps) = start.toList ++ (solid ps).map .ofPiece := by
  rw [components_eq, splitStart_append hps hslash h, pieces_join hps hslash]

theorem components_eq_nil_iff {path : List Char} : components path = [] ↔ path = [] := by
  constructor
  · intro h
    obtain ⟨hstart, hbody⟩ := List.append_eq_nil_iff.1 ((components_eq path).symm.trans h)
    have hsolid := List.map_eq_nil_iff.1 hbody
    have hprecedes := precedes_splitStart path
    have hpath := startText_append_splitStart path
    rw [Option.toList_eq_nil_iff.1 hstart] at hprecedes hpath
    rcases hprecedes with hempty | hfirst
    · rw [← hpath, ← join_pieces (splitStart path).2, hempty]
      rfl
    · obtain ⟨first, more, heq⟩ := List.exists_cons_of_ne_nil (pieces_ne_nil (splitStart path).2)
      rw [heq] at hsolid hfirst
      rw [solid_cons _ (hfirst first rfl)] at hsolid
      cases hsolid
  · rintro rfl
    rfl

/-! ## The parent of a path -/

/-- The parent that a start and pieces make has that start and those pieces for its components. -/
theorem components_parentText {start : Option Component} {before after : List (List Char)}
    (hslash : ∀ piece ∈ before, '/' ∉ piece) (h : Precedes start (before ++ after)) :
    components (parentText start before) = start.toList ++ (solid before).map .ofPiece := by
  have hsplit : dropIdleEnd before ++ before.rtakeWhile isIdle = before :=
    List.rdropWhile_append_rtakeWhile
  rw [parentText, ← solid_dropIdleEnd before]
  by_cases hnil : dropIdleEnd before = []
  · have hbare : components (startText start ++ join [[]]) =
        start.toList ++ (solid [[]]).map .ofPiece :=
      components_append (List.cons_ne_nil [] []) (by simp) h.bare
    rw [hnil]
    exact hbare
  · rw [← hsplit, List.append_assoc] at h
    refine components_append hnil (fun piece hpiece => hslash piece ?_) (h.left hnil)
    rw [← hsplit]
    exact List.mem_append_left _ hpiece

/-! ## Splitting -/

theorem Component.ofPiece_eq_name_iff {piece name : List Char} :
    Component.ofPiece piece = .name name ↔ piece ≠ ['.', '.'] ∧ piece = name := by
  unfold Component.ofPiece
  split <;> simp_all

theorem components_name {piece : List Char} (hslash : '/' ∉ piece) (hidle : isIdle piece = false)
    (hup : piece ≠ ['.', '.']) : components piece = [.name piece] := by
  have hpieces : pieces piece = [piece] :=
    pieces_join (List.cons_ne_nil piece []) (List.forall_mem_singleton.2 hslash)
  have hstart : splitStart piece = (none, piece) :=
    splitStart_of_head (by rw [hpieces, List.head?_cons]) hidle
  rw [components_eq, hstart, hpieces]
  simp [solid, hidle, Component.ofPiece_eq_name_iff.2 ⟨hup, rfl⟩]

/-- A path that means something at all has its start alone for a component, or the components of the
text before its last one and that last one. -/
theorem components_of_splitLast? (path : List Char) :
    splitLast? (pieces (splitStart path).2) = none ∧
        components path = (splitStart path).1.toList ∨
      ∃ before piece, splitLast? (pieces (splitStart path).2) = some (before, piece) ∧
        '/' ∉ piece ∧ isIdle piece = false ∧
        components path =
          components (parentText (splitStart path).1 before) ++ [.ofPiece piece] := by
  have hstart := precedes_splitStart path
  have hslash : ∀ piece ∈ pieces (splitStart path).2, '/' ∉ piece := fun _ =>
    slash_not_mem_of_mem_pieces
  rcases splitLast?_cases (pieces (splitStart path).2) with
    ⟨hnone, hsolid⟩ | ⟨before, piece, after, hsome, heq, hidle, hafter⟩
  · refine .inl ⟨hnone, ?_⟩
    rw [components_eq, hsolid, List.map_nil, List.append_nil]
  · refine .inr ⟨before, piece, hsome, hslash piece (by simp [heq]), hidle, ?_⟩
    rw [heq] at hstart
    rw [components_parentText (fun q hq => hslash q (by simp [heq, hq])) hstart, components_eq, heq,
      solid_append, solid_cons _ hidle, hafter]
    simp

theorem splitName?_of_none {path : String}
    (h : splitLast? (pieces (splitStart path.toList).2) = none) : splitName? path = none := by
  simp only [splitName?, h]

theorem splitName?_of_some {path : String} {before : List (List Char)} {piece : List Char}
    (h : splitLast? (pieces (splitStart path.toList).2) = some (before, piece)) :
    splitName? path =
      if piece = ['.', '.'] ∨ parentText (splitStart path.toList).1 before = [] then none
      else some (.ofList (parentText (splitStart path.toList).1 before), .ofList piece) := by
  simp only [splitName?, h, Bool.or_eq_true, decide_eq_true_eq]

/-- A path splits exactly if it has several components and the last of them is a name. -/
theorem exists_splitName?_iff (path : String) :
    (∃ d n, splitName? path = some (d, n)) ↔
      ∃ dirs name, dirs ≠ [] ∧ components path.toList = dirs ++ [.name name] := by
  rcases components_of_splitLast? path.toList with
    ⟨hnone, hcomponents⟩ | ⟨before, piece, hsome, -, -, hcomponents⟩
  · -- A start alone is at most one component.
    have hlength : (splitStart path.toList).1.toList.length ≤ 1 := by
      cases (splitStart path.toList).1 <;> simp
    rw [splitName?_of_none hnone, hcomponents]
    refine ⟨fun ⟨d, n, h⟩ => (by cases h), fun ⟨dirs, name, hdirs, heq⟩ => ?_⟩
    rw [heq, List.length_append, List.length_singleton] at hlength
    exact absurd (List.length_eq_zero_iff.1 (by omega)) hdirs
  · -- The components of the parent are the ones before the name.
    have hparent : parentText (splitStart path.toList).1 before = [] ↔
        components (parentText (splitStart path.toList).1 before) = [] := components_eq_nil_iff.symm
    rw [splitName?_of_some hsome, hcomponents]
    constructor
    · rintro ⟨d, n, h⟩
      split_ifs at h with hbare
      rw [not_or, hparent] at hbare
      exact ⟨_, piece, hbare.2, by rw [Component.ofPiece_eq_name_iff.2 ⟨hbare.1, rfl⟩]⟩
    · rintro ⟨dirs, name, hdirs, heq⟩
      obtain ⟨rfl, hlast⟩ := List.append_inj' heq rfl
      obtain ⟨hup, -⟩ := Component.ofPiece_eq_name_iff.1 (List.singleton_inj.1 hlast)
      rw [if_neg (not_or.2 ⟨hup, fun h => hdirs (hparent.1 h)⟩)]
      exact ⟨_, _, rfl⟩

/-- The parent of `./a` is a component of its own, that of `a/.` is empty, and `..` is no name. -/
example : splitName? "./a" = some (".", "a") ∧ splitName? "a/." = none ∧
    splitName? "a/.." = none := by
  decide

/-- The directory of a path that splits has the components before the last one, and the name is the
last one. -/
theorem components_splitName? {path d n : String} (h : splitName? path = some (d, n)) :
    components path.toList = components d.toList ++ [.name n.toList] ∧ '/' ∉ n.toList ∧
      components n.toList = [.name n.toList] := by
  rcases components_of_splitLast? path.toList with
    ⟨hnone, -⟩ | ⟨before, piece, hsome, hslash, hidle, hcomponents⟩
  · rw [splitName?_of_none hnone] at h
    cases h
  · rw [splitName?_of_some hsome] at h
    split_ifs at h with hbare
    cases h
    rw [not_or] at hbare
    rw [hcomponents, Component.ofPiece_eq_name_iff.2 ⟨hbare.1, rfl⟩, String.toList_ofList,
      String.toList_ofList]
    exact ⟨rfl, hslash, components_name hslash hidle hbare.1⟩

end CommandSpec.Path
