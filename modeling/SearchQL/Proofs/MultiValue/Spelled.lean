import SearchQL.Proofs.Value.Spelling

/-!
# One integer in a list — which of its spellings are accepted

An item of an array and a filter argument are decoded by the same `integer`. It
takes a word as an integer or as text on sight, and a double if it is whole and
its magnitude is less than 2^63. The words from -2^63 to 2^63 - 1 are not
symmetric and that bound is: the double that is exactly -2^63 is refused, while
the integer and the text of the same value are taken (`singleton_of_spells`). It
is the only spelling of a word that is refused, because the ranks have different
values (`eq_leastReal`).

A number that is no word is refused either way. Where it is an integer beyond the
words it is looked at as a double too, and rounding does not bring it back in.
-/

namespace SearchQL.MultiValue

/-- The least word as a double. -/
def leastReal : Number := .real (.finite true ⟨1086 * Binary64.binade, by decide⟩)

theorem unitsOfRank_leastReal :
    Binary64.unitsOfRank (1086 * Binary64.binade) = doubleBound * Binary64.unitsPerOne :=
  Binary64.unitsOfRank_two_pow 63

theorem hasValue_leastReal : leastReal.HasValue (-9223372036854775808) :=
  (Binary64.signedUnits_eq_iff _ _ _).mpr ⟨doubleBound, unitsOfRank_leastReal, rfl⟩

/-- No other double is the least word. -/
theorem eq_leastReal {x : Binary64} (h : (Number.real x).HasValue (-9223372036854775808)) :
    Number.real x = leastReal := by
  cases x with
  | finite negative rank =>
    obtain ⟨k, units, value⟩ := (Binary64.signedUnits_eq_iff _ _ _).mp h
    cases negative with
    | false =>
      rw [if_neg Bool.false_ne_true] at value
      omega
    | true =>
      obtain rfl : k = doubleBound := by
        rw [if_pos rfl] at value
        unfold doubleBound
        omega
      rw [← unitsOfRank_leastReal] at units
      obtain rfl : rank = ⟨1086 * Binary64.binade, by decide⟩ :=
        Fin.ext (Binary64.strictMono_unitsOfRank.injective units)
      rfl
  | _ => exact absurd h id

/-! ## One integer -/

theorem integer_of_spells {i : Int64} {v : Value} (spelled : v.Spells i.toInt)
    (other : v ≠ .number leastReal) : integer v = .ok i := by
  cases spelled with
  | @number x value =>
    cases x with
    | integer m =>
      obtain rfl : m = i.toInt := value
      exact integer_ofInt64 i
    | real x =>
      have within : i.toInt.natAbs < doubleBound := by
        have fits := Number.fitsSigned_toInt i
        have not_least : i.toInt ≠ -9223372036854775808 := by
          intro least
          exact other (congrArg Value.number (eq_leastReal (least ▸ value)))
        unfold Number.FitsSigned at fits
        unfold doubleBound
        omega
      simp only [integer, Number.int64?, Number.toBinary64,
        Binary64.toInt?_eq_some_iff.mpr value, if_pos within, Int64.ofInt_toInt]
  | text decimal =>
    simp only [integer, trim_of_isDecimalOf decimal, Number.readInt64?_decimal]

/-- The double nearest to an integer that is no word is out of bounds too, if it is whole at all. -/
theorem doubleBound_le_of_toInt?_ofInt {m i : Int} (beyond : ¬ Number.FitsSigned m)
    (whole : (Binary64.ofInt m).toInt? = some i) : doubleBound ≤ i.natAbs := by
  have large : doubleBound ≤ m.natAbs := by
    unfold Number.FitsSigned at beyond
    unfold doubleBound
    omega
  have units := Binary64.signedBound_le_unitsOfRank large
  rw [Binary64.toInt?_eq_some_iff, Binary64.ofInt, Binary64.ofRatio] at whole
  split at whole
  · obtain ⟨k, exact_units, rfl⟩ := (Binary64.signedUnits_eq_iff _ _ _).mp whole
    rw [exact_units] at units
    have le := Nat.le_of_mul_le_mul_right units Binary64.unitsPerOne_pos
    unfold doubleBound
    split <;> omega
  · exact absurd whole id

theorem integer_number_of_out_of_bounds {x : Number} (not_word : x.int64? = none)
    (outside : ∀ i, x.toBinary64.toInt? = some i → doubleBound ≤ i.natAbs) :
    integer (.number x) = .error (.decode (String.ofList x.chars) .notWord) := by
  simp only [integer, not_word]
  split
  · next i whole => rw [if_neg (Nat.not_lt.mpr (outside i whole))]
  · rfl

/-- A number that is no word is refused. -/
theorem integer_number_of_no_word {x : Number} (no_word : ∀ i : Int64, ¬ x.HasValue i.toInt) :
    integer (.number x) = .error (.decode (String.ofList x.chars) .notWord) := by
  have beyond {m : Int} (value : x.HasValue m) : ¬ Number.FitsSigned m := fun fits =>
    no_word (Int64.ofInt m) (by rwa [Int64.toInt_ofInt_of_le fits.1 fits.2])
  cases x with
  | integer m =>
    refine integer_number_of_out_of_bounds (if_neg (beyond rfl)) fun i whole => ?_
    exact doubleBound_le_of_toInt?_ofInt (beyond rfl) whole
  | real x =>
    refine integer_number_of_out_of_bounds rfl fun i whole => ?_
    have outside := beyond (Binary64.toInt?_eq_some_iff.mp whole)
    unfold Number.FitsSigned at outside
    unfold doubleBound
    omega

theorem integer_leastReal :
    integer (.number leastReal) = .error (.decode (String.ofList leastReal.chars) .notWord) := by
  refine integer_number_of_out_of_bounds rfl fun i whole => ?_
  have value : i = -9223372036854775808 :=
    Option.some.inj (whole.symm.trans (Binary64.toInt?_eq_some_iff.mpr hasValue_leastReal))
  rw [value]
  decide

/-! ## Lists of one -/

theorem ofValue_singleton (v : Value) :
    ofValue (.array [v]) = (integer v).map fun i => [i] := by
  rw [ofValue, List.mapM_cons, List.mapM_nil]
  cases integer v <;> rfl

theorem ofArguments_singleton_number (x : Number) :
    ofArguments [.number x] = (integer (.number x)).map fun i => [i] := by
  simp only [ofArguments, addArguments, addArgument, List.not_mem_nil, if_false, List.nil_append]
  cases integer (.number x) <;> rfl

theorem ofArguments_singleton_of_spells {n : Int} {v : Value} (spelled : v.Spells n) :
    ofArguments [v] = (integer v).map fun i => [i] := by
  cases spelled with
  | number _ => exact ofArguments_singleton_number _
  | @text s decimal =>
    simp only [ofArguments, addArguments, addArgument, not_isBlankText_of_isDecimalOf decimal,
      List.not_mem_nil, Bool.false_eq_true, if_false, List.nil_append]
    cases integer (.text s) <;> rfl

/-- **Spellings of one word decode alike**, as the item of an array and as a filter argument, but for
the double that is exactly the least word: that one is refused by both. So is every number that is
no word. -/
theorem singleton_of_spells (v : Value) :
    (∀ i : Int64, v.Spells i.toInt →
      (ofValue (.array [v]) = .ok [i] ∧ ofArguments [v] = .ok [i] ↔ v ≠ .number leastReal)) ∧
    ∀ x : Number, v = .number x → (x = leastReal ∨ ∀ i : Int64, ¬ x.HasValue i.toInt) →
      ofValue (.array [v]) = .error (.decode (String.ofList x.chars) .notWord) ∧
      ofArguments [v] = .error (.decode (String.ofList x.chars) .notWord) := by
  refine ⟨fun i spelled => ⟨?_, fun other => ?_⟩, ?_⟩
  · rintro ⟨accepted, -⟩ rfl
    rw [ofValue_singleton, integer_leastReal] at accepted
    cases accepted
  · rw [ofValue_singleton, ofArguments_singleton_of_spells spelled, integer_of_spells spelled other]
    exact ⟨rfl, rfl⟩
  · rintro x rfl refused
    have error : integer (.number x) = .error (.decode (String.ofList x.chars) .notWord) := by
      rcases refused with rfl | no_word
      · exact integer_leastReal
      · exact integer_number_of_no_word no_word
    rw [ofValue_singleton, ofArguments_singleton_number, error]
    exact ⟨rfl, rfl⟩

/-- The least word as text, 2^62 as a double, and the first integer beyond the words. -/
theorem singleton_of_spells_ends :
    ofArguments [.text "\u00a0-9223372036854775808\n"] = .ok [-9223372036854775808] ∧
      ofValue (.array [.number (.real (.finite false ⟨1085 * Binary64.binade, by decide⟩))]) =
        .ok [4611686018427387904] ∧
      ofValue (.array [.number (.integer 9223372036854775808)]) =
        .error (.decode "9223372036854775808" .notWord) := by
  have text : (Value.text "\u00a0-9223372036854775808\n").Spells Int64.minValue.toInt :=
    .text ⟨['\u00a0'], ['\n'], List.all_eq_true.mp (by decide), List.all_eq_true.mp (by decide),
      by decide +kernel⟩
  have real : (Number.real (.finite false ⟨1085 * Binary64.binade, by decide⟩)).HasValue
      4611686018427387904 := by
    show Binary64.signedUnits _ _ = _
    decide +kernel
  have beyond (i : Int64) : ¬ (Number.integer 9223372036854775808).HasValue i.toInt :=
    fun value => absurd i.toInt_lt (value ▸ by decide)
  have not_least : Value.number (.real (.finite false ⟨1085 * Binary64.binade, by decide⟩)) ≠
      .number leastReal := by
    simp [leastReal]
  refine ⟨(((singleton_of_spells _).1 _ text).mpr nofun).2,
    (((singleton_of_spells _).1 4611686018427387904 (.number real)).mpr not_least).1, ?_⟩
  rw [((singleton_of_spells _).2 _ rfl (.inr beyond)).1]
  decide +kernel

/-- One integer in two spellings, of which one is refused as no integer of 64 bits. -/
theorem refused_leastReal :
    leastReal.HasValue Int64.minValue.toInt ∧
      ofValue (.array [.number (.integer Int64.minValue.toInt)]) = .ok [Int64.minValue] ∧
      ofValue (.array [.number leastReal]) =
        .error (.decode "-9.223372036854776e+18" .notWord) := by
  refine ⟨hasValue_leastReal, ?_, ?_⟩ <;> decide +kernel

end SearchQL.MultiValue
