import Mathlib.Data.List.TakeWhile
import SearchQL.Proofs.MultiValue.RoundTrip
import SearchQL.Proofs.Number.Rounding

/-!
# Spellings — the values that are one integer

An integer reaches the library as a number of a document or as text. `Spells` says
which values are a given integer, without asking how they are decoded: a number
with exactly that value, be it an integer or a double, and the decimal of the
integer with blanks around it.

The rest is what the decoders meet on a spelling. The decimal is what is left of
the text when its blanks are cut off (`trim_of_isDecimalOf`). Read as a word it is
its integer where that fits (`readInt64?_decimal_eq`), and read as a double it is
the decimal rounded once (`read?_decimal`). An integer beyond the signed words is
still beyond them after rounding (`signedBound_le_unitsOfRank`), so a decoder that goes
through doubles cannot take it for one of the words.
-/

namespace SearchQL

/-! ## Blanks around a text -/

theorem Text.trimChars_of_blank {before after cs : List Char}
    (blank_before : ∀ c ∈ before, isBlank c = true) (blank_after : ∀ c ∈ after, isBlank c = true)
    (solid : ∀ c ∈ cs, isBlank c = false) : trimChars (before ++ cs ++ after) = cs := by
  have kept {xs : List Char} (h : ∀ c ∈ xs, isBlank c = false) : xs.dropWhile isBlank = xs := by
    cases xs with
    | nil => rfl
    | cons c xs => exact List.dropWhile_cons_of_neg (by simp [h c List.mem_cons_self])
  have front : (before ++ cs ++ after).dropWhile isBlank = cs ++ after.dropWhile isBlank ∨
      (before ++ cs ++ after).dropWhile isBlank = cs ++ after := by
    rw [List.append_assoc, List.dropWhile_append_of_pos blank_before]
    cases cs with
    | nil => exact .inl rfl
    | cons c cs =>
      exact .inr (List.dropWhile_cons_of_neg (by simp [solid c List.mem_cons_self]))
  have back (rest : List Char) (h : ∀ c ∈ rest, isBlank c = true) :
      ((cs ++ rest).reverse.dropWhile isBlank).reverse = cs := by
    rw [List.reverse_append, List.dropWhile_append_of_pos (by simpa using h),
      kept (by simpa using solid), List.reverse_reverse]
  rw [trimChars]
  rcases front with cut | cut <;> rw [cut]
  · exact back _ fun c mem => blank_after c ((List.dropWhile_sublist _).subset mem)
  · exact back _ blank_after

/-! ## Numbers and their exact values -/

/-- Whether the exact value of a number is an integer. -/
def Number.HasValue (n : Int) : Number → Prop
  | .integer m => m = n
  | .real (.finite negative rank) =>
    Binary64.signedUnits negative rank = n * Binary64.unitsPerOne
  | .real _ => False

namespace Binary64

theorem signedUnits_eq_iff (negative : Bool) (rank : Nat) (n : Int) :
    signedUnits negative rank = n * unitsPerOne ↔
      ∃ k : Nat, unitsOfRank rank = k * unitsPerOne ∧ n = if negative then -(k : Int) else k := by
  have pos : (unitsPerOne : Int) ≠ 0 := Int.natCast_ne_zero.mpr unitsPerOne_pos.ne'
  unfold signedUnits
  constructor
  · intro eq
    refine ⟨n.natAbs, ?_, ?_⟩
    · have abs := congrArg Int.natAbs eq
      rw [Int.natAbs_mul, Int.natAbs_natCast] at abs
      rw [← abs]
      cases negative <;> simp
    · have sign : 0 ≤ (if negative then -n else n) * (unitsPerOne : Int) := by
        cases negative
        · exact eq ▸ Int.natCast_nonneg _
        · rw [if_pos rfl] at eq ⊢
          rw [Int.neg_mul, ← eq, Int.neg_neg]
          exact Int.natCast_nonneg _
      have nonneg := nonneg_of_mul_nonneg_left sign (by omega)
      cases negative <;> simp only [if_true, Bool.false_eq_true, if_false] at nonneg ⊢ <;> omega
  · rintro ⟨k, units, rfl⟩
    rw [units]
    cases negative <;> simp

/-- A double is taken for the integer that is its exact value, and for none else. -/
theorem toInt?_eq_some_iff {x : Binary64} {n : Int} :
    x.toInt? = some n ↔ (Number.real x).HasValue n := by
  cases x with
  | finite negative rank =>
    rw [Number.HasValue, signedUnits_eq_iff, toInt?]
    constructor
    · intro taken
      split at taken
      · next whole =>
        refine ⟨unitsOfRank rank / unitsPerOne, (Nat.div_mul_cancel ?_).symm, ?_⟩
        · exact Nat.dvd_of_mod_eq_zero whole
        · exact (Option.some.inj taken).symm
      · cases taken
    · rintro ⟨k, units, rfl⟩
      rw [units, Nat.mul_mod_left, if_pos rfl, truncate?, units,
        Nat.mul_div_cancel _ unitsPerOne_pos]
  | _ => exact iff_of_false (by simp [toInt?]) id

/-! ## Integers beyond the signed words -/

/-- Rounding takes no magnitude of 2^63 or more below 2^63. -/
theorem signedBound_le_unitsOfRank {m : Nat} (h : 9223372036854775808 ≤ m) :
    9223372036854775808 * unitsPerOne ≤ unitsOfRank (rankOfRatio m 1) := by
  have bound : unitsOfRank (1086 * binade) = 9223372036854775808 * unitsPerOne :=
    unitsOfRank_two_pow 63
  rw [← bound]
  refine strictMono_unitsOfRank.monotone (le_rankOfRatio Nat.one_pos ?_)
  rw [bound, Nat.mul_one]
  exact Nat.mul_le_mul_right _ h

end Binary64

/-! ## Decimals -/

/-- The second argument is the decimal of the first, with blanks around it. -/
def IsDecimalOf (n : Int) (s : String) : Prop :=
  ∃ before after, (∀ c ∈ before, Text.isBlank c = true) ∧ (∀ c ∈ after, Text.isBlank c = true) ∧
    s.toList = before ++ (Number.decimal n).toList ++ after

theorem not_isBlank_of_mem_decimal {n : Int} {c : Char} (h : c ∈ (Number.decimal n).toList) :
    Text.isBlank c = false := by
  have solid := MultiValue.not_isFiller_of_mem_decimal h
  simp only [MultiValue.isFiller, Bool.or_eq_false_iff] at solid
  exact solid.2

theorem trim_of_isDecimalOf {n : Int} {s : String} (h : IsDecimalOf n s) :
    Text.trim s = Number.decimal n := by
  obtain ⟨before, after, blank_before, blank_after, text⟩ := h
  rw [Text.trim, text, Text.trimChars_of_blank blank_before blank_after
    fun c => not_isBlank_of_mem_decimal, String.ofList_toList]

theorem not_isBlankText_of_isDecimalOf {n : Int} {s : String} (h : IsDecimalOf n s) :
    Text.isBlankText s = false := by
  obtain ⟨before, after, -, -, text⟩ := h
  obtain ⟨c, mem⟩ := List.exists_mem_of_ne_nil _ (MultiValue.decimal_ne_nil n)
  rw [Text.isBlankText, List.all_eq_false]
  refine ⟨c, ?_, by simp [not_isBlank_of_mem_decimal mem]⟩
  simp [text, mem]

theorem readInt64?_decimal_eq (n : Int) :
    Number.readInt64? (Number.decimal n) = Number.toInt64? n := by
  rw [Number.readInt64?, Number.integer?_decimal, Option.bind_some]

/-- The decimal of a number is read as the number is. -/
theorem readUInt64?_decimal (n : Int) :
    Number.readUInt64? (Number.decimal n) = Number.toUInt64? n := by
  rw [Number.readUInt64?]
  split
  · next cs text =>
    have negative : n < 0 := by
      by_contra nonneg
      rw [Number.toList_decimal, if_neg nonneg, List.nil_append] at text
      have digit := Nat.isDigit_of_mem_toDigits (by decide) (by decide)
        (text ▸ List.mem_cons_self : '-' ∈ Nat.toDigits 10 n.natAbs)
      cases digit
    exact (if_neg fun fits => absurd fits.1 (Int.not_le.mpr negative)).symm
  · rw [Number.integer?_decimal, Option.bind_some]

namespace Binary64

theorem readMagnitude?_of_isDigit (negative : Bool) {cs : List Char}
    (digits : ∀ c ∈ cs, c.isDigit = true) (some_digit : cs ≠ []) :
    readMagnitude? negative cs =
      some (ofDecimal negative ⟨Nat.ofDigitChars 10 cs 0, 0⟩) := by
  have range {c : Char} (h : c.isDigit = true) : 48 ≤ c.toNat ∧ c.toNat ≤ 57 := by
    simpa [Char.isDigit, UInt32.le_iff_toNat_le] using h
  have no_mark : ∀ c ∈ cs, (!isExponentMark c) = true := by
    intro c mem
    have := range (digits c mem)
    have other : c ≠ 'e' ∧ c ≠ 'E' := by
      constructor <;> rintro rfl <;> simp at this
    simp [isExponentMark, other]
  have mantissa : readMantissa? cs = some ⟨Nat.ofDigitChars 10 cs 0, 0⟩ := by
    rw [readMantissa?, List.takeWhile_eq_self_iff.mpr digits, List.dropWhile_eq_nil_iff.mpr digits]
    simp [Number.natural?, some_digit, List.all_eq_true.mpr digits]
  have decimal : readDecimal? cs = some ⟨Nat.ofDigitChars 10 cs 0, 0⟩ := by
    rw [readDecimal?, List.takeWhile_eq_self_iff.mpr no_mark, List.dropWhile_eq_nil_iff.mpr no_mark,
      mantissa]
  -- the words for what is no number begin with a letter
  obtain ⟨first, rest, rfl⟩ := List.exists_cons_of_ne_nil some_digit
  have first_range := range (digits first List.mem_cons_self)
  have kept : first.toLower = first := dif_neg fun upper => by
    have above : 65 ≤ first.toNat := UInt32.le_iff_toNat_le.mp upper.1
    omega
  have no_word : first ≠ 'i' ∧ first ≠ 'n' := by
    constructor <;> rintro rfl <;> simp at first_range
  unfold readMagnitude?
  rw [decimal, List.map_cons, kept]
  split
  · next word => exact absurd (List.cons.inj word).1 no_word.1
  · next word => exact absurd (List.cons.inj word).1 no_word.1
  · next word => exact absurd (List.cons.inj word).1 no_word.2
  · rfl

/-- The decimal of an integer, read as a double, is rounded once. -/
theorem read?_decimal (n : Int) :
    read? (Number.decimal n) = some (ofDecimal (decide (n < 0)) ⟨n.natAbs, 0⟩) := by
  have digits : ∀ c ∈ Nat.toDigits 10 n.natAbs, c.isDigit = true := fun c mem =>
    Nat.isDigit_of_mem_toDigits (by decide) (by decide) mem
  have magnitude (negative : Bool) : readMagnitude? negative (Nat.toDigits 10 n.natAbs) =
      some (ofDecimal negative ⟨n.natAbs, 0⟩) := by
    rw [readMagnitude?_of_isDigit negative digits Nat.toDigits_ne_nil,
      Nat.ofDigitChars_ten_toDigits]
  unfold read?
  rw [Number.toList_decimal]
  by_cases neg : n < 0
  · simp only [neg, if_true, List.cons_append, List.nil_append, decide_true, magnitude]
  · rw [if_neg neg, List.nil_append, decide_eq_false neg]
    split
    · next sign => exact absurd (digits '-' (by simp [sign])) (by decide)
    · next sign => exact absurd (digits '+' (by simp [sign])) (by decide)
    · exact magnitude false

end Binary64

/-! ## Spellings -/

/-- Whether a value is an integer: as a number with exactly that value, or as its decimal. -/
inductive Value.Spells (n : Int) : Value → Prop
  | number {x : Number} : x.HasValue n → Spells n (.number x)
  | text {s : String} : IsDecimalOf n s → Spells n (.text s)

end SearchQL
