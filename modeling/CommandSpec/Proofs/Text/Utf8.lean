import CommandSpec.Text.Utf8

/-!
# Decoding and encoding

What was encoded is decoded to itself (`decode_encode`), and an ASCII byte is a boundary: whatever
character is open before it is replaced, and the decoding starts afresh after it
(`decode_append_cons`). So a text may be decoded as a whole or in pieces cut at ASCII bytes, whether
it is well-formed or not.

Both rest on what holds of every state that the decoder reaches (`State.Proper`): no ASCII byte
continues a character, and no newline comes out of several bytes.
-/

namespace CommandSpec.Utf8

/-! ## Reached states -/

/-- The next byte of an open character is no ASCII byte, and its value will be 64 at least. -/
def State.Proper : State → Prop
  | .start => True
  | .inside owed low _ value => 0x80 ≤ low ∧ (1 ≤ value ∨ 1 ≤ owed ∧ 0x81 ≤ low)

theorem first_of_ascii {b : Nat} (hb : b ≤ 0x7F) : first b = ([Char.ofNat b], .start) :=
  if_pos hb

theorem proper_first (b : Nat) : (first b).2.Proper := by
  unfold first
  repeat' split
  all_goals simp only [State.Proper]
  all_goals omega

theorem proper_step {s : State} (hs : s.Proper) (b : Nat) : (step s b).2.Proper := by
  cases s with
  | start => exact proper_first b
  | inside owed low high value =>
    by_cases hb : low ≤ b ∧ b ≤ high
    · cases owed with
      | zero => simp [step, hb, State.Proper]
      | succ owed =>
        simp only [State.Proper, step, hb, and_self, if_true] at hs ⊢
        omega
    · rw [step, if_neg hb]
      exact proper_first b

/-- An ASCII byte replaces what is open and stands for itself. -/
theorem step_of_ascii {s : State} (hs : s.Proper) {b : Nat} (hb : b ≤ 0x7F) :
    step s b = (finish s ++ [Char.ofNat b], .start) := by
  cases s with
  | start => exact first_of_ascii hb
  | inside owed low high value =>
    have hout : ¬ (low ≤ b ∧ b ≤ high) := fun h => by
      have := hs.1
      omega
    rw [step, if_neg hout, first_of_ascii hb]
    rfl

/-! ## Pieces -/

theorem run_append_cons {s : State} (hs : s.Proper) {b : UInt8} (hb : b.toNat ≤ 0x7F)
    (bytes rest : List UInt8) :
    run s (bytes ++ b :: rest) = run s bytes ++ Char.ofNat b.toNat :: run .start rest := by
  induction bytes generalizing s with
  | nil => simp [run, step_of_ascii hs hb]
  | cons a bytes ih =>
    rw [List.cons_append, run, run, ih (proper_step hs _), List.append_assoc]

/-- **An ASCII byte is a boundary.** The bytes on either side of it are decoded by themselves. -/
theorem decode_append_cons {b : UInt8} (hb : b.toNat ≤ 0x7F) (bytes rest : List UInt8) :
    decode (bytes ++ b :: rest) = decode bytes ++ Char.ofNat b.toNat :: decode rest :=
  run_append_cons (s := .start) trivial hb bytes rest

theorem decode_cons {b : UInt8} (hb : b.toNat ≤ 0x7F) (rest : List UInt8) :
    decode (b :: rest) = Char.ofNat b.toNat :: decode rest :=
  decode_append_cons hb [] rest

/-- A byte that yields no character opens one. -/
theorem step_ne_start {s : State} {b : Nat} (h : (step s b).1 = []) : (step s b).2 ≠ .start := by
  have hfirst : (first b).1 = [] → (first b).2 ≠ .start := by
    unfold first
    repeat' split
    all_goals simp
  cases s with
  | start => exact hfirst h
  | inside owed low high value =>
    by_cases hb : low ≤ b ∧ b ≤ high
    · cases owed <;> simp [step, hb] at h ⊢
    · rw [step, if_neg hb] at h
      exact absurd h (List.cons_ne_nil _ _)

theorem run_ne_nil {s : State} (hs : s ≠ .start) (bytes : List UInt8) : run s bytes ≠ [] := by
  induction bytes generalizing s with
  | nil =>
    cases s with
    | start => exact absurd rfl hs
    | inside owed low high value => exact List.cons_ne_nil _ _
  | cons b bytes ih =>
    intro hnil
    obtain ⟨hout, hrest⟩ := List.append_eq_nil_iff.1 hnil
    exact ih (step_ne_start hout) hrest

theorem decode_eq_nil {bytes : List UInt8} : decode bytes = [] ↔ bytes = [] := by
  cases bytes with
  | nil => simp [decode, run, finish]
  | cons b bytes =>
    refine ⟨fun h => ?_, fun h => absurd h (List.cons_ne_nil _ _)⟩
    obtain ⟨hout, hrest⟩ := List.append_eq_nil_iff.1 h
    exact absurd hrest (run_ne_nil (step_ne_start hout) bytes)

/-! ## Characters below 64 -/

section

variable {c : Char} (hc : 0 < c.toNat) (hc' : c.toNat < 0x40)

include hc in
theorem toNat_of_ofNat {n : Nat} (h : Char.ofNat n = c) : n = c.toNat := by
  subst h
  by_cases hn : n.isValidChar
  · rw [Char.ofNat, dif_pos hn]
    rfl
  · rw [Char.ofNat, dif_neg hn] at hc
    exact absurd hc (by decide)

include hc' in
theorem ne_replacement : c ≠ replacement := by
  rintro rfl
  exact absurd hc' (by decide)

include hc hc'

/-- Only its own byte yields a character below 64. -/
theorem toNat_of_mem_step {s : State} (hs : s.Proper) {b : Nat} (h : c ∈ (step s b).1) :
    b = c.toNat := by
  have hne : c ≠ replacement := ne_replacement hc'
  have hfirst : c ∈ (first b).1 → b = c.toNat := by
    unfold first
    split
    · intro hmem
      exact toNat_of_ofNat hc (List.mem_singleton.1 hmem).symm
    repeat' split
    all_goals simp [hne]
  cases s with
  | start => exact hfirst h
  | inside owed low high value =>
    by_cases hb : low ≤ b ∧ b ≤ high
    · cases owed with
      | zero =>
        simp only [step, hb, and_self, if_true, List.mem_singleton] at h
        have := toNat_of_ofNat hc h.symm
        simp only [State.Proper] at hs
        omega
      | succ owed => simp [step, hb] at h
    · rw [step, if_neg hb] at h
      rcases List.mem_cons.1 h with h | h
      · exact absurd h hne
      · exact hfirst h

theorem not_mem_run {s : State} (hs : s.Proper) {bytes : List UInt8}
    (h : ∀ b ∈ bytes, b.toNat ≠ c.toNat) : c ∉ run s bytes := by
  induction bytes generalizing s with
  | nil => cases s <;> simp [run, finish, ne_replacement hc']
  | cons b bytes ih =>
    rw [List.forall_mem_cons] at h
    rw [run, List.mem_append, not_or]
    exact ⟨fun hmem => h.1 (toNat_of_mem_step hc hc' hs hmem), ih (proper_step hs _) h.2⟩

/-- A text ends in a character below 64 only if its bytes end in the byte of that character. -/
theorem exists_getLast?_of_run {s : State} (hs : s.Proper) {bytes : List UInt8}
    (h : (run s bytes).getLast? = some c) : ∃ b, bytes.getLast? = some b ∧ b.toNat = c.toNat := by
  induction bytes generalizing s with
  | nil =>
    have hmem : c ∈ finish s := List.mem_of_getLast? h
    cases s <;> simp [finish, ne_replacement hc'] at hmem
  | cons b bytes ih =>
    rw [run, List.getLast?_append, Option.or_eq_some_iff] at h
    rcases h with h | ⟨hnone, h⟩
    · obtain ⟨a, ha, hac⟩ := ih (proper_step hs _) h
      exact ⟨a, by rw [List.getLast?_cons, ha]; rfl, hac⟩
    · have hnil := List.getLast?_eq_none_iff.1 hnone
      have hbytes : bytes = [] := by
        by_cases hstart : (step s b.toNat).2 = .start
        · rw [hstart] at hnil
          exact decode_eq_nil.1 hnil
        · exact absurd hnil (run_ne_nil hstart bytes)
      exact ⟨b, by rw [hbytes]; rfl, toNat_of_mem_step hc hc' hs (List.mem_of_getLast? h)⟩

end

/-! ## Newlines -/

theorem newline_not_mem_decode {bytes : List UInt8} (h : (0x0A : UInt8) ∉ bytes) :
    '\n' ∉ decode bytes :=
  not_mem_run (s := .start) (by decide) (by decide) trivial fun b hb hnewline =>
    h ((UInt8.toNat_inj.1 hnewline : b = 0x0A) ▸ hb)

/-! ## Encoded characters -/

theorem first_of_two {k : Nat} (h : 2 ≤ k) (h' : k ≤ 0x1F) :
    first (k + 0xC0) = ([], .inside 0 0x80 0xBF k) := by
  rw [first, if_neg (by omega), if_pos (by omega), Nat.add_sub_cancel]

theorem first_of_three {k : Nat} (h : k ≤ 0xF) :
    first (k + 0xE0) =
      ([], .inside 1 (if k = 0 then 0xA0 else 0x80) (if k = 0xD then 0x9F else 0xBF) k) := by
  have : ∀ k, k < 16 → first (k + 0xE0) =
      ([], .inside 1 (if k = 0 then 0xA0 else 0x80) (if k = 0xD then 0x9F else 0xBF) k) := by
    decide
  exact this k (by omega)

theorem first_of_four {k : Nat} (h : k ≤ 4) :
    first (k + 0xF0) =
      ([], .inside 2 (if k = 0 then 0x90 else 0x80) (if k = 4 then 0x8F else 0xBF) k) := by
  have : ∀ k, k < 5 → first (k + 0xF0) =
      ([], .inside 2 (if k = 0 then 0x90 else 0x80) (if k = 4 then 0x8F else 0xBF) k) := by
    decide
  exact this k (by omega)

/-- A byte that continues a character. -/
theorem run_more {owed low high value b : Nat} (hb : b < 0x40) (hlow : low ≤ b + 0x80)
    (hhigh : b + 0x80 ≤ high) (rest : List UInt8) :
    run (.inside (owed + 1) low high value) (UInt8.ofNat (b + 0x80) :: rest) =
      run (.inside owed 0x80 0xBF (value * 64 + b)) rest := by
  have hbyte : (UInt8.ofNat (b + 0x80)).toNat = b + 0x80 :=
    UInt8.toNat_ofNat_of_lt' (by show _ < 256; omega)
  rw [run, hbyte, step, if_pos ⟨hlow, hhigh⟩, Nat.add_sub_cancel]
  rfl

/-- A byte that completes a character. -/
theorem run_last {low high value b : Nat} (hb : b < 0x40) (hlow : low ≤ b + 0x80)
    (hhigh : b + 0x80 ≤ high) (rest : List UInt8) :
    run (.inside 0 low high value) (UInt8.ofNat (b + 0x80) :: rest) =
      Char.ofNat (value * 64 + b) :: run .start rest := by
  have hbyte : (UInt8.ofNat (b + 0x80)).toNat = b + 0x80 :=
    UInt8.toNat_ofNat_of_lt' (by show _ < 256; omega)
  rw [run, hbyte, step, if_pos ⟨hlow, hhigh⟩, Nat.add_sub_cancel]
  rfl

/-- A byte that opens a character. -/
theorem run_first {b : Nat} {state : State} (hb : b < 256) (h : first b = ([], state))
    (rest : List UInt8) : run .start (UInt8.ofNat b :: rest) = run state rest := by
  rw [run, UInt8.toNat_ofNat_of_lt' (by exact hb), step, h]
  rfl

theorem run_encodeChar (c : Char) (rest : List UInt8) :
    run .start (String.utf8EncodeChar c ++ rest) = c :: run .start rest := by
  have hvalid : c.val.toNat < 0xD800 ∨ 0xDFFF < c.val.toNat ∧ c.val.toNat < 0x110000 := c.valid
  have hc : Char.ofNat c.val.toNat = c := Char.ofNat_toNat c
  unfold String.utf8EncodeChar
  generalize c.val.toNat = v at *
  dsimp only
  split
  · rw [List.singleton_append, run, UInt8.toNat_ofNat_of_lt' (by show v < 256; omega), step,
      first_of_ascii ‹_›, hc]
    rfl
  split
  · have hv : v / 64 % 32 * 64 + v % 64 = v := by omega
    rw [List.cons_append, List.singleton_append,
      run_first (by omega) (first_of_two (by omega) (by omega)),
      run_last (by omega) (by omega) (by omega), hv, hc]
  split
  · have hv : (v / 4096 % 16 * 64 + v / 64 % 64) * 64 + v % 64 = v := by omega
    rw [List.cons_append, List.cons_append, List.singleton_append,
      run_first (by omega) (first_of_three (by omega)),
      run_more (by omega) (by split <;> omega) (by split <;> omega),
      run_last (by omega) (by omega) (by omega), hv, hc]
  · have hv : ((v / 262144 % 8 * 64 + v / 4096 % 64) * 64 + v / 64 % 64) * 64 + v % 64 = v := by
      omega
    rw [List.cons_append, List.cons_append, List.cons_append, List.singleton_append,
      run_first (by omega) (first_of_four (by omega)),
      run_more (by omega) (by split <;> omega) (by split <;> omega),
      run_more (by omega) (by omega) (by omega), run_last (by omega) (by omega) (by omega), hv, hc]

/-- What was encoded is decoded to itself, whatever bytes follow it. -/
theorem decode_encode_append (cs : List Char) (bytes : List UInt8) :
    decode (encode cs ++ bytes) = cs ++ decode bytes := by
  induction cs with
  | nil => rfl
  | cons c cs ih =>
    show run .start (String.utf8EncodeChar c ++ encode cs ++ bytes) = c :: (cs ++ decode bytes)
    rw [List.append_assoc, run_encodeChar, show run .start (encode cs ++ bytes) = _ from ih]

/-- **What was encoded is decoded to itself.** -/
theorem decode_encode (cs : List Char) : decode (encode cs) = cs := by
  have h := decode_encode_append cs []
  rwa [List.append_nil, decode_eq_nil.2 rfl, List.append_nil] at h

theorem encode_append (cs ds : List Char) : encode (cs ++ ds) = encode cs ++ encode ds :=
  List.flatMap_append

theorem encode_eq_nil {cs : List Char} : encode cs = [] ↔ cs = [] := by
  rw [← decode_eq_nil, decode_encode]

theorem newline_not_mem_encode {cs : List Char} (h : '\n' ∉ cs) : (0x0A : UInt8) ∉ encode cs := by
  intro hmem
  obtain ⟨before, after, heq⟩ := List.append_of_mem hmem
  have hdecode := decode_append_cons (b := 0x0A) (by decide) before after
  rw [← heq, decode_encode] at hdecode
  rw [hdecode] at h
  exact h (List.mem_append_right _ List.mem_cons_self)

/-! ## Replacement -/

/-- The bytes with a replacement character in the place of every maximal invalid subpart. -/
def replaced (bytes : List UInt8) : List UInt8 :=
  encode (decode bytes)

@[simp] theorem decode_replaced (bytes : List UInt8) : decode (replaced bytes) = decode bytes :=
  decode_encode _

theorem replaced_eq_nil {bytes : List UInt8} : replaced bytes = [] ↔ bytes = [] := by
  rw [replaced, encode_eq_nil, decode_eq_nil]

theorem newline_not_mem_replaced {bytes : List UInt8} (h : (0x0A : UInt8) ∉ bytes) :
    (0x0A : UInt8) ∉ replaced bytes :=
  newline_not_mem_encode (newline_not_mem_decode h)

/-- What is on one side of a newline has no say in what is replaced on the other. -/
theorem replaced_append_newline (bytes rest : List UInt8) :
    replaced (bytes ++ 0x0A :: rest) = replaced bytes ++ 0x0A :: replaced rest := by
  rw [replaced, decode_append_cons (by decide), encode_append]
  rfl

end CommandSpec.Utf8
