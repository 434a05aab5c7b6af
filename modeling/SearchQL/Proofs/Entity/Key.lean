import SearchQL.Entity.Basic
import SearchQL.Proofs.Value.Spelling

/-!
# Keys — the id that addresses a row

Statements that save or delete one row address it by its key, and a key is a
signed word. The integer cast decides which one: a word as itself, and everything
else through a double that is cut down and kept within the words. So an id beyond
the words is not refused, it becomes the last word on its side
(`toInteger_of_spells`), and every two ids beyond the same end have the same key.

`Cast.toInteger` has one branch for numbers and one for texts. What both come to is
the same, because a double nearest to an integer beyond the words is beyond them
too (`clampReal_of_not_fitsSigned`): rounding keeps the order.
-/

namespace SearchQL

/-! ## Words at the ends -/

theorem Number.toInt_clampInt64 (n : Int) :
    (clampInt64 n).toInt = max (-9223372036854775808) (min n 9223372036854775807) := by
  have least : Int64.minValue.toInt = -9223372036854775808 := by decide
  have greatest : Int64.maxValue.toInt = 9223372036854775807 := by decide
  unfold clampInt64
  rw [least, greatest]
  split
  · rw [least]
    omega
  · split
    · rw [greatest]
      omega
    · rw [Int64.toInt_ofInt_of_le (by omega) (by omega)]
      omega

/-- An integer that is a word is the word nearest to it. -/
theorem Number.toInt64?_eq_some_clampInt64 {n : Int} (h : FitsSigned n) :
    toInt64? n = some (clampInt64 n) := by
  have own : Int64.ofInt n = clampInt64 n := by
    apply Int64.toInt_inj.mp
    rw [toInt_clampInt64, Int64.toInt_ofInt_of_le h.1 h.2]
    unfold FitsSigned at h
    omega
  rw [toInt64?, if_pos h, own]

namespace Cast

/-! ## Doubles -/

theorem clampReal_of_toInt? {x : Binary64} {n : Int} (h : x.toInt? = some n) :
    clampReal x = Number.clampInt64 n := by
  cases x with
  | finite negative rank =>
    rw [Binary64.toInt?] at h
    split at h
    · simp only [clampReal, h, Option.map_some, Option.getD_some]
    · cases h
  | _ => cases h

/-- A magnitude of 2^63 or more is rounded to a double beyond the words. -/
theorem toInt_clampReal_ofRatio (negative : Bool) {m : Nat} (h : 9223372036854775808 ≤ m) :
    (clampReal (.ofRatio negative m 1)).toInt =
      if negative then -9223372036854775808 else 9223372036854775807 := by
  have beyond := (Nat.le_div_iff_mul_le Binary64.unitsPerOne_pos).mpr
    (Binary64.signedBound_le_unitsOfRank h)
  unfold Binary64.ofRatio
  dsimp only
  split
  · simp only [clampReal, Binary64.truncate?, Option.map_some, Option.getD_some,
      Number.toInt_clampInt64]
    generalize Binary64.unitsOfRank _ / Binary64.unitsPerOne = whole at *
    cases negative <;> simp <;> omega
  · cases negative <;> rfl

/-- An integer that is no word is rounded to a double on its own side of the words. -/
theorem clampReal_of_not_fitsSigned {n : Int} (h : ¬ Number.FitsSigned n) :
    clampReal (.ofRatio (decide (n < 0)) n.natAbs 1) = Number.clampInt64 n := by
  unfold Number.FitsSigned at h
  apply Int64.toInt_inj.mp
  rw [toInt_clampReal_ofRatio _ (by omega), Number.toInt_clampInt64]
  by_cases neg : n < 0 <;> simp only [neg, decide_true, decide_false, if_true, if_false,
    Bool.false_eq_true] <;> omega

theorem clampReal_ofDecimal {n : Int} (h : ¬ Number.FitsSigned n) :
    clampReal (.ofDecimal (decide (n < 0)) ⟨n.natAbs, 0⟩) = Number.clampInt64 n := by
  have large : 9223372036854775808 ≤ n.natAbs := by
    unfold Number.FitsSigned at h
    omega
  have not_zero : n.natAbs ≠ 0 := by omega
  have not_small : ¬ (⟨n.natAbs, 0⟩ : Decimal).leadingExponent < -400 := by
    simp only [Decimal.leadingExponent]
    omega
  rw [← clampReal_of_not_fitsSigned h, Binary64.ofDecimal, if_neg not_zero, if_neg not_small]
  split
  · -- too large to be a finite double
    apply Int64.toInt_inj.mp
    rw [toInt_clampReal_ofRatio _ large, clampReal]
    cases decide (n < 0) <;> rfl
  · simp [Decimal.ratio]

/-! ## Values -/

/-- However an integer is spelled, the cast gives the word nearest to it. -/
theorem toInteger_of_spells {n : Int} {v : Value} (h : v.Spells n) :
    toInteger v = .ok (Number.clampInt64 n) := by
  cases h with
  | @number x value =>
    cases x with
    | integer m =>
      obtain rfl : m = n := value
      rw [toInteger, Number.int64?]
      by_cases word : Number.FitsSigned m
      · rw [Number.toInt64?_eq_some_clampInt64 word]
      · rw [Number.toInt64?, if_neg word]
        exact congrArg Except.ok (clampReal_of_not_fitsSigned word)
    | real x => exact congrArg Except.ok (clampReal_of_toInt? (Binary64.toInt?_eq_some_iff.mpr value))
  | text decimal =>
    rw [toInteger, trim_of_isDecimalOf decimal, readInt64?_decimal_eq]
    by_cases word : Number.FitsSigned n
    · rw [Number.toInt64?_eq_some_clampInt64 word]
    · rw [Number.toInt64?, if_neg word, Binary64.read?_decimal]
      exact congrArg Except.ok (clampReal_ofDecimal word)

theorem decode_integer_of_spells {n : Int} {v : Value} (h : v.Spells n) :
    Cast.integer.decode v = .ok (.ofInt64 (Number.clampInt64 n)) := by
  have converted := congrArg (Except.map Value.ofInt64) (toInteger_of_spells h)
  cases h <;> exact converted

end Cast

/-! ## Keys -/

namespace Entity

theorem keyOf_eq_clampInt64 {e : Entity} {row : Row} {v : Value} {n : Int}
    (held : Fields.get? e.key row = some v) (spelled : v.Spells n) :
    e.keyOf row = .ok (Number.clampInt64 n) := by
  rw [keyOf, held]
  exact Cast.toInteger_of_spells spelled

/-- **The key of a row is the word nearest to its id**, however the id is spelled. It is the id itself
exactly if that is a word, and two ids have one key exactly if they are equal or both stand at or
beyond the same end of the words. -/
theorem keyOf_of_spells (e : Entity) {row : Row} {v : Value} {n : Int}
    (held : Fields.get? e.key row = some v) (spelled : v.Spells n) :
    ∃ i : Int64, e.keyOf row = .ok i ∧ Cast.integer.decode v = .ok (.ofInt64 i) ∧
      i.toInt = max (-9223372036854775808) (min n 9223372036854775807) ∧
      (i.toInt = n ↔ Number.FitsSigned n) ∧
      ∀ {other : Row} {w : Value} {m : Int}, Fields.get? e.key other = some w → w.Spells m →
        (e.keyOf other = .ok i ↔ m = n ∨
          (9223372036854775807 ≤ m ∧ 9223372036854775807 ≤ n) ∨
          (m ≤ -9223372036854775808 ∧ n ≤ -9223372036854775808)) := by
  have value := Number.toInt_clampInt64 n
  refine ⟨Number.clampInt64 n, keyOf_eq_clampInt64 held spelled,
    Cast.decode_integer_of_spells spelled, value, ?_, ?_⟩
  · rw [value]
    unfold Number.FitsSigned
    omega
  · intro other w m held_other spelled_other
    rw [keyOf_eq_clampInt64 held_other spelled_other, Except.ok.injEq, ← Int64.toInt_inj, value,
      Number.toInt_clampInt64]
    omega

/-- An id of 2^63, and 2^64 as text with blanks around it. -/
theorem keyOf_of_spells_beyond :
    Cast.integer.decode (.number (.integer 9223372036854775808)) =
        .ok (.ofInt64 9223372036854775807) ∧
      ({ table := "docs" } : Entity).keyOf [("id", .text " 18446744073709551616\n")] =
        .ok 9223372036854775807 := by
  have number : (Value.number (.integer 9223372036854775808)).Spells 9223372036854775808 :=
    .number rfl
  have text : (Value.text " 18446744073709551616\n").Spells 18446744073709551616 :=
    .text ⟨[' '], ['\n'], List.all_eq_true.mp (by decide), List.all_eq_true.mp (by decide),
      by decide +kernel⟩
  obtain ⟨i, -, decoded, value, -, same_key⟩ := keyOf_of_spells { table := "docs" }
    (show Fields.get? "id" [("id", Value.number (.integer 9223372036854775808))] = _ from rfl) number
  obtain rfl : i = 9223372036854775807 := Int64.toInt_inj.mp value
  exact ⟨decoded, (same_key rfl text).mpr (by decide)⟩

/-- Two different ids that are no words are not refused and have one key. -/
theorem keyOf_eq_keyOf_beyond :
    ({ table := "docs" } : Entity).keyOf [("id", .number (.integer 9223372036854775808))] =
        .ok 9223372036854775807 ∧
      ({ table := "docs" } : Entity).keyOf [("id", .number (.integer 18446744073709551615))] =
        .ok 9223372036854775807 := by
  decide +kernel

end Entity

end SearchQL
