import CommandSpec.Text.Blank
import CommandSpec.Text.Integer
import Mathlib.Data.Nat.Digits.Defs

/-!
# Integers in decimal digits

`Numeral` says which integer a text denotes, digit by digit and without a bound.

**Theorem (`readInt32?_eq_some_iff`).** The integers that are read are those that a text denotes and
that lie between -2^31 and 2^31 - 1. No other value is ever read, whatever the digits are.

**Theorem (`readInt32?_toString`).** The decimal notation of an integer of 32 bits is read back as
that integer, with or without blanks around it.
-/

namespace CommandSpec.Text

/-! ## What a text denotes -/

/-- One or more of the digits from `0` to `9`. -/
def Digits (ds : List Char) : Prop :=
  ds ≠ [] ∧ ∀ d ∈ ds, '0' ≤ d ∧ d ≤ '9'

/-- The number that decimal digits denote by their positions, the last of them the units. -/
def positional (ds : List Char) : Nat :=
  Nat.ofDigits 10 (ds.reverse.map fun d => d.toNat - '0'.toNat)

/-- The text denotes the integer in decimal digits, with or without a sign. -/
inductive Numeral : List Char → Int → Prop
  | unsigned {ds : List Char} (h : Digits ds) : Numeral ds (positional ds)
  | plus {ds : List Char} (h : Digits ds) : Numeral ('+' :: ds) (positional ds)
  | minus {ds : List Char} (h : Digits ds) : Numeral ('-' :: ds) (-positional ds)

/-- Adding digit after digit gives each of them the weight of its position. -/
theorem digitsValue_eq_positional (ds : List Char) : digitsValue ds = positional ds := by
  rw [positional, Nat.ofDigits_eq_foldr, List.map_reverse, List.foldr_reverse, List.foldl_map,
    digitsValue]
  congr 1
  funext n d
  exact Nat.add_comm _ _

theorem isDigit_iff (d : Char) : d.isDigit = true ↔ '0' ≤ d ∧ d ≤ '9' := by
  rw [Char.isDigit, Bool.and_eq_true, decide_eq_true_iff, decide_eq_true_iff]
  rfl

theorem readDigits?_eq_some_iff {cs : List Char} {n : Nat} :
    readDigits? cs = some n ↔ Digits cs ∧ n = positional cs := by
  have hdigits : (cs ≠ [] ∧ cs.all Char.isDigit = true) ↔ Digits cs := by
    simp only [Digits, List.all_eq_true, isDigit_iff]
  rw [readDigits?, Option.ite_none_right_eq_some, hdigits, digitsValue_eq_positional,
    Option.some_inj, eq_comm]

/-- Digits are no sign, so they are read as they are. -/
theorem readInteger?_of_digits {ds : List Char} (h : Digits ds) :
    readInteger? ds = some (positional ds : Int) := by
  have hsign {c : Char} {cs : List Char} (heq : ds = c :: cs) : '0' ≤ c ∧ c ≤ '9' :=
    h.2 c (heq ▸ List.mem_cons_self)
  unfold readInteger?
  split
  · exact absurd (hsign rfl) (by decide)
  · exact absurd (hsign rfl) (by decide)
  · rw [readDigits?_eq_some_iff.2 ⟨h, rfl⟩]
    rfl

theorem readInteger?_eq_some_iff {cs : List Char} {n : Int} :
    readInteger? cs = some n ↔ Numeral cs n := by
  constructor
  · intro h
    unfold readInteger? at h
    split at h
    all_goals
      simp only [Option.map_eq_some_iff, Option.bind_eq_bind, Option.bind_eq_some_iff,
        Option.pure_def, Option.some.injEq] at h
      obtain ⟨_, ⟨m, hm, rfl⟩, rfl⟩ := h
      obtain ⟨hdigits, rfl⟩ := readDigits?_eq_some_iff.1 hm
    · exact .plus hdigits
    · exact .minus hdigits
    · exact .unsigned hdigits
  · intro h
    cases h with
    | unsigned h => exact readInteger?_of_digits h
    | plus h =>
      rw [readInteger?, readDigits?_eq_some_iff.2 ⟨h, rfl⟩]
      rfl
    | minus h =>
      rw [readInteger?, readDigits?_eq_some_iff.2 ⟨h, rfl⟩]
      rfl

/-- **The integers of 32 bits are read, and no others.** -/
theorem readInt32?_eq_some_iff {cs : List Char} {n : Int} :
    readInt32? cs = some n ↔ Numeral cs n ∧ -2 ^ 31 ≤ n ∧ n ≤ 2 ^ 31 - 1 := by
  rw [readInt32?, Option.filter_eq_some_iff, readInteger?_eq_some_iff, decide_eq_true_iff,
    Int.le_sub_one_iff]

/-! ## What is written is read -/

theorem isDigit_of_mem_toDigits {n : Nat} {c : Char} (h : c ∈ Nat.toDigits 10 n) :
    c.isDigit = true :=
  Nat.isDigit_of_mem_toDigits (by decide) (by decide) h

theorem digits_toDigits (n : Nat) : Digits (Nat.toDigits 10 n) :=
  ⟨Nat.toDigits_ne_nil, fun _ hd => (isDigit_iff _).1 (isDigit_of_mem_toDigits hd)⟩

theorem positional_toDigits (n : Nat) : positional (Nat.toDigits 10 n) = n := by
  rw [← digitsValue_eq_positional]
  exact Nat.ofDigitChars_ten_toDigits

theorem readDigits?_toDigits (n : Nat) : readDigits? (Nat.toDigits 10 n) = some n :=
  readDigits?_eq_some_iff.2 ⟨digits_toDigits n, (positional_toDigits n).symm⟩

theorem toList_toString (n : Int) :
    (toString n).toList =
      if 0 ≤ n then Nat.toDigits 10 n.toNat else '-' :: Nat.toDigits 10 (-n).toNat := by
  rw [Int.toString_eq_repr, Int.repr_eq_if]
  split <;> simp [Nat.toList_repr]

theorem numeral_toString (n : Int) : Numeral (toString n).toList n := by
  rw [toList_toString]
  split
  · have hunsigned := Numeral.unsigned (digits_toDigits n.toNat)
    rwa [positional_toDigits, Int.toNat_of_nonneg ‹_›] at hunsigned
  · have hneg : -((-n).toNat : Int) = n := by omega
    have hminus := Numeral.minus (digits_toDigits (-n).toNat)
    rwa [positional_toDigits, hneg] at hminus

/-- No character of a decimal integer is blank. -/
theorem isBlank_of_mem_toString {n : Int} {c : Char} (h : c ∈ (toString n).toList) :
    isBlank c = false := by
  have hdigit : ∀ {m : Nat}, c ∈ Nat.toDigits 10 m → isBlank c = false := fun hc => by
    have hrange : 48 ≤ c.toNat ∧ c.toNat ≤ 57 := by
      simpa [Char.isDigit, UInt32.le_iff_toNat_le] using isDigit_of_mem_toDigits hc
    simp [isBlank]
    omega
  rw [toList_toString] at h
  split at h
  · exact hdigit h
  · rcases List.mem_cons.1 h with rfl | h
    · decide
    · exact hdigit h

theorem trim_of_not_blank {cs : List Char} (h : ∀ c ∈ cs, isBlank c = false) : trim cs = cs := by
  have hdropWhile : ∀ {ds : List Char}, (∀ c ∈ ds, isBlank c = false) →
      ds.dropWhile isBlank = ds := fun {ds} hds => by
    cases ds with
    | nil => rfl
    | cons c ds => rw [List.dropWhile_cons, hds c List.mem_cons_self]; rfl
  have hreverse : ∀ c ∈ cs.reverse, isBlank c = false := fun c hc => h c (List.mem_reverse.1 hc)
  rw [trim, trimStart, hdropWhile h, trimEnd, hdropWhile hreverse, List.reverse_reverse]

/-- **A decimal integer of 32 bits is read back.** -/
theorem readInt32?_toString {n : Int} (h : -2 ^ 31 ≤ n) (h' : n < 2 ^ 31) :
    readInt32? (trim (toString n).toList) = some n := by
  rw [trim_of_not_blank fun _ => isBlank_of_mem_toString]
  exact readInt32?_eq_some_iff.2 ⟨numeral_toString n, h, Int.le_sub_one_of_lt h'⟩

end CommandSpec.Text
