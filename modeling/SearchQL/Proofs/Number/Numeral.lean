import Mathlib.Data.List.Induction
import SearchQL.Number.Word

/-!
# Numerals — the texts that write an integer

A numeral is an optional sign and at least one ASCII digit. `Digits` and `Numeral`
are that grammar with the number each text writes, built up digit by digit from the
left. `integer?` reads exactly the numerals and each as its number
(`integer?_eq_some_iff`). The reader has no bounds, so a numeral of a word is one
whose number fits the word, and there is nothing else to it
(`toInt64?_eq_some_iff`, `toUInt64?_eq_some_iff`).
-/

namespace SearchQL.Number

/-- One or more ASCII digits and the number that they write. -/
inductive Digits : List Char → Nat → Prop
  | one {c : Char} : c.isDigit = true → Digits [c] (c.toNat - '0'.toNat)
  | snoc {cs : List Char} {n : Nat} {c : Char} :
      Digits cs n → c.isDigit = true → Digits (cs ++ [c]) (10 * n + (c.toNat - '0'.toNat))

/-- An optional sign and digits. -/
inductive Numeral : List Char → Int → Prop
  | unsigned {cs : List Char} {n : Nat} : Digits cs n → Numeral cs n
  | plus {cs : List Char} {n : Nat} : Digits cs n → Numeral ('+' :: cs) n
  | minus {cs : List Char} {n : Nat} : Digits cs n → Numeral ('-' :: cs) (-n)

theorem Digits.isDigit_of_mem {cs : List Char} {n : Nat} (h : Digits cs n) :
    ∀ c ∈ cs, c.isDigit = true := by
  induction h with
  | one digit => exact List.forall_mem_singleton.mpr digit
  | snoc _ digit ih => exact List.forall_mem_append.mpr ⟨ih, List.forall_mem_singleton.mpr digit⟩

/-- A numeral is made of signs and digits. -/
theorem Numeral.of_mem {cs : List Char} {n : Int} (h : Numeral cs n) {c : Char} (mem : c ∈ cs) :
    c = '+' ∨ c = '-' ∨ c.isDigit = true := by
  cases h with
  | unsigned digits => exact .inr (.inr (digits.isDigit_of_mem c mem))
  | plus digits =>
    rcases List.mem_cons.mp mem with sign | mem
    · exact .inl sign
    · exact .inr (.inr (digits.isDigit_of_mem c mem))
  | minus digits =>
    rcases List.mem_cons.mp mem with sign | mem
    · exact .inr (.inl sign)
    · exact .inr (.inr (digits.isDigit_of_mem c mem))

theorem Numeral.ne_nil {cs : List Char} {n : Int} (h : Numeral cs n) : cs ≠ [] := by
  cases h with
  | unsigned digits =>
    cases digits with
    | one _ => exact List.cons_ne_nil _ _
    | snoc _ _ => exact List.append_ne_nil_of_right_ne_nil _ (List.cons_ne_nil _ _)
  | _ => exact List.cons_ne_nil _ _

/-- Digits write one number only, and the reader computes it. -/
theorem digits_iff {cs : List Char} {n : Nat} :
    Digits cs n ↔ cs ≠ [] ∧ (∀ c ∈ cs, c.isDigit = true) ∧ Nat.ofDigitChars 10 cs 0 = n := by
  constructor
  · intro h
    refine ⟨(Numeral.unsigned h).ne_nil, h.isDigit_of_mem, ?_⟩
    induction h with
    | one _ => rw [Nat.ofDigitChars_cons, Nat.ofDigitChars_nil, Nat.mul_zero, Nat.zero_add]
    | snoc _ _ ih =>
      rw [Nat.ofDigitChars_append, ih, Nat.ofDigitChars_cons, Nat.ofDigitChars_nil]
  · rintro ⟨some_digit, digits, rfl⟩
    -- from the end, as the grammar is
    induction cs using List.reverseRecOn with
    | nil => exact absurd rfl some_digit
    | append_singleton cs c ih =>
      obtain ⟨before, last⟩ := List.forall_mem_append.mp digits
      have digit := last c List.mem_cons_self
      rw [Nat.ofDigitChars_append, Nat.ofDigitChars_cons, Nat.ofDigitChars_nil]
      by_cases first : cs = []
      · subst first
        rw [Nat.ofDigitChars_nil, Nat.mul_zero, Nat.zero_add]
        exact .one digit
      · exact .snoc (ih first before) digit

theorem natural?_eq_some_iff {cs : List Char} {n : Nat} : natural? cs = some n ↔ Digits cs n := by
  rw [digits_iff, natural?]
  by_cases accepted : cs ≠ [] ∧ ∀ c ∈ cs, c.isDigit = true
  · have passes : ¬ (cs.isEmpty || !cs.all Char.isDigit) = true := by simpa using accepted
    rw [if_neg passes, Option.some.injEq, ← and_assoc, and_iff_right accepted]
  · have refused : (cs.isEmpty || !cs.all Char.isDigit) = true := by
      by_contra passes
      exact accepted (by simpa using passes)
    rw [if_pos refused, ← and_assoc]
    exact iff_of_false (Option.some_ne_none n).symm fun h => accepted h.1

/-- Exactly the numerals are read, each as its number. -/
theorem integer?_eq_some_iff {cs : List Char} {n : Int} : integer? cs = some n ↔ Numeral cs n := by
  constructor
  · intro h
    unfold integer? at h
    split at h <;> obtain ⟨m, digits, rfl⟩ := Option.map_eq_some_iff.mp h
    · exact .minus (natural?_eq_some_iff.mp digits)
    · exact .plus (natural?_eq_some_iff.mp digits)
    · exact .unsigned (natural?_eq_some_iff.mp digits)
  · intro h
    cases h with
    | unsigned digits =>
      rw [integer?_of_isDigit digits.isDigit_of_mem, natural?_eq_some_iff.mpr digits,
        Option.map_some]
    | plus digits => rw [integer?, natural?_eq_some_iff.mpr digits, Option.map_some]
    | minus digits => rw [integer?, natural?_eq_some_iff.mpr digits, Option.map_some]

theorem toInt64?_eq_some_iff {n : Int} {i : Int64} : toInt64? n = some i ↔ n = i.toInt := by
  constructor
  · exact fun h => (toInt_of_toInt64? h).symm
  · rintro rfl
    exact toInt64?_toInt i

theorem toUInt64?_eq_some_iff {n : Int} {w : UInt64} : toUInt64? n = some w ↔ n = w.toNat := by
  have bound := w.toNat_lt
  rw [toUInt64?]
  constructor
  · intro h
    split at h
    · next fits =>
      cases h
      obtain ⟨nonneg, lt⟩ := fits
      rw [UInt64.toNat_ofNat_of_lt' (by simp only [UInt64.size]; omega)]
      omega
    · cases h
  · rintro rfl
    rw [if_pos ⟨by omega, by omega⟩, Int.toNat_natCast, UInt64.ofNat_toNat]

end SearchQL.Number
