import SearchQL.Proofs.Number.Shortest
import SearchQL.Proofs.Placeholder.Structure
import SearchQL.Proofs.Value.Spelling

/-!
# Integers as literals — which digits the daemon sees

An integer parameter of a statement is written as its decimal if it is a signed
word. The integers beyond, which still fit an unsigned word, are bound as the
nearest double, and a double is written as its shortest decimal. The doubles of
that size are whole, so what is sent is an integer again, but not always the same
one: 9223372036854775808 is sent as 9223372036854776000.

`IsRoundest` says which integer it is, in terms of integers only: of those with
the same double the one that ends in the most zeros, and of several such the
nearest to the double. There is exactly one (`IsRoundest.eq`), so an integer beyond
the signed words keeps its digits exactly if it is itself the roundest
(`interpolate_integer`).
-/

namespace SearchQL

namespace Binary64

/-! ## Whole doubles -/

/-- From the rank of 2^53 on every double is whole. -/
theorem exists_unitsOfRank_eq_mul {rank : Nat} (le : 1075 * binade ≤ rank) :
    ∃ whole, unitsOfRank rank = whole * unitsPerOne := by
  obtain ⟨shift, mantissa, rfl, lt, normal, -⟩ := exists_shift rank
  have spread (bits : Nat) (few : bits ≤ shift) :
      mantissa * 2 ^ shift = mantissa * 2 ^ (shift - bits) * (1 <<< bits) := by
    rw [Nat.one_shiftLeft, Nat.mul_assoc, ← pow_add, Nat.sub_add_cancel few]
  refine ⟨_, (unitsOfRank_shift lt.le normal).trans (spread 1074 ?_)⟩
  unfold binade at *
  omega

/-- The integer that is written for a whole double: no other integer with the same double ends in
more zeros, and of those that end in as many it is the nearest. -/
structure IsRoundest (whole m : Int) : Prop where
  same_double : ofInt m = ofInt whole
  most_zeros : ∀ k : Int, ofInt k = ofInt whole → ∀ j : Nat, 10 ^ j ∣ k → 10 ^ j ∣ m
  nearest : ∀ k : Int, ofInt k = ofInt whole → (∀ j : Nat, 10 ^ j ∣ m → 10 ^ j ∣ k) →
    |m - whole| ≤ |k - whole|
  greater_of_tie : ∀ k : Int, ofInt k = ofInt whole → (∀ j : Nat, 10 ^ j ∣ m → 10 ^ j ∣ k) →
    |m - whole| = |k - whole| → k ≤ m

/-- There is one such integer at most. -/
theorem IsRoundest.eq {whole m k : Int} (hm : IsRoundest whole m) (hk : IsRoundest whole k) :
    m = k := by
  have zeros := hm.most_zeros k hk.same_double
  have zeros' := hk.most_zeros m hm.same_double
  have same := (hm.nearest k hk.same_double zeros').antisymm (hk.nearest m hm.same_double zeros)
  exact (hk.greater_of_tie m hm.same_double zeros same.symm).antisymm
    (hm.greater_of_tie k hk.same_double zeros' same)

/-! ## What is written for a whole double -/

theorem value_natural (n : Nat) : (⟨n, 0⟩ : Decimal).value = n := by
  rw [Decimal.value, zpow_zero, mul_one]

theorem rankOf_natural (k : Nat) : rankOf ⟨k, 0⟩ = rankOfRatio k 1 := by
  simp [rankOf, Decimal.ratio]

/-- The integers with a given positive double are those of its rank. -/
theorem ofInt_eq_finite_iff {rank : Nat} (finite : rank + 1 < finiteRanks) (k : Int) :
    ofInt k = .finite false ⟨rank + 1, finite⟩ ↔ ∃ n : Nat, k = n ∧ rankOf ⟨n, 0⟩ = rank + 1 := by
  simp only [ofInt, ofRatio, rankOf_natural]
  constructor
  · intro same
    split at same
    · obtain ⟨sign, rank_eq⟩ := Binary64.finite.inj same
      exact ⟨k.natAbs, by have := of_decide_eq_false sign; omega, Fin.mk.inj rank_eq⟩
    · cases same
  · rintro ⟨n, rfl, reads⟩
    simp [reads, finite]

section Whole

variable {rank whole : Nat} (finite : rank + 1 < finiteRanks)
  (units : unitsOfRank (rank + 1) = whole * unitsPerOne)

include units

theorem magnitude_of_whole : magnitude (rank + 1) = whole := by
  rw [magnitude, units, Nat.cast_mul, mul_div_assoc, div_self cast_unitsPerOne_pos.ne', mul_one]

theorem rankOf_whole : rankOf ⟨whole, 0⟩ = rank + 1 := by
  have value : (⟨whole, 0⟩ : Decimal).value = magnitude (rank + 1) := by
    rw [magnitude_of_whole units, value_natural]
  exact (rankOf_le value.le).antisymm (le_rankOf value.ge)

include finite

theorem ofInt_eq_ofInt_whole_iff (k : Int) :
    ofInt k = ofInt whole ↔ ∃ n : Nat, k = n ∧ rankOf ⟨n, 0⟩ = rank + 1 := by
  rw [← ofInt_eq_finite_iff finite,
    (ofInt_eq_finite_iff finite whole).mpr ⟨whole, rfl, rankOf_whole units⟩]

/-- An integer with the same double that ends in zeros is a decimal of the double that begins behind
them. -/
theorem exists_decimal_of_dvd {k : Int} (same : ofInt k = ofInt whole) {j : Nat}
    (zeros : 10 ^ j ∣ k) :
    ∃ other : Decimal, other.exponent = j ∧ rankOf other = rank + 1 ∧ other.value = k := by
  obtain ⟨n, rfl, reads⟩ := (ofInt_eq_ofInt_whole_iff finite units k).mp same
  obtain ⟨c, rfl⟩ : 10 ^ j ∣ n := by exact_mod_cast zeros
  have value : (⟨c, j⟩ : Decimal).value = (10 ^ j * c : Nat) := by
    rw [Decimal.value, zpow_natCast]
    push_cast
    ring
  exact ⟨⟨c, j⟩, rfl, (rankOf_congr (value.trans (value_natural _).symm)).trans reads, value⟩

/-- The shortest decimal of a whole double is an integer, and the roundest one of its double. -/
theorem IsShortest.isRoundest {d : Decimal} (h : IsShortest .up (rank + 1) d) :
    0 ≤ d.exponent ∧ IsRoundest whole (d.digits * 10 ^ d.exponent.toNat : Nat) := by
  have exponent : 0 ≤ d.exponent := h.coarsest _ (rankOf_whole units)
  obtain ⟨e, exponent_eq⟩ := Int.eq_ofNat_of_zero_le exponent
  have value : d.value = (d.digits * 10 ^ e : Nat) := by
    rw [Decimal.value, exponent_eq, zpow_natCast]
    push_cast
    rfl
  have whole_eq := magnitude_of_whole units
  rw [exponent_eq, Int.toNat_natCast]
  have own_zeros : (10 : Int) ^ e ∣ (d.digits * 10 ^ e : Nat) := by
    exact_mod_cast Nat.dvd_mul_left (10 ^ e) d.digits
  refine ⟨Int.natCast_nonneg e, ?_, ?_, ?_, ?_⟩
  · refine (ofInt_eq_ofInt_whole_iff finite units _).mpr ⟨_, rfl, ?_⟩
    exact (rankOf_congr ((value_natural _).trans value.symm)).trans h.reads_back
  · intro k same j zeros
    obtain ⟨other, begins, reads, -⟩ := exists_decimal_of_dvd finite units same zeros
    have coarser := h.coarsest other reads
    exact (pow_dvd_pow 10 (by omega)).trans own_zeros
  · intro k same zeros
    obtain ⟨other, begins, reads, other_value⟩ :=
      exists_decimal_of_dvd finite units same (zeros e own_zeros)
    have nearest := h.nearest other (by omega) reads
    rw [value, other_value, whole_eq] at nearest
    exact_mod_cast nearest
  · intro k same zeros tie
    obtain ⟨other, begins, reads, other_value⟩ :=
      exists_decimal_of_dvd finite units same (zeros e own_zeros)
    have greater := h.greater_of_tie rfl other (by omega) reads
    rw [value, other_value, whole_eq] at greater
    exact_mod_cast greater (by exact_mod_cast tie)

end Whole

/-! ## Plain digits -/

theorem toDigits_mul_ten_pow {n : Nat} (pos : 0 < n) (e : Nat) :
    Nat.toDigits 10 (n * 10 ^ e) = Nat.toDigits 10 n ++ List.replicate e '0' := by
  induction e with
  | zero => simp
  | succ e ih =>
    have next : n * 10 ^ (e + 1) = 10 * (n * 10 ^ e) + 0 := by ring
    rw [next, ← Nat.toDigits_append_toDigits (by decide) (by positivity) (by decide), ih,
      List.append_assoc, List.replicate_succ']
    rfl

theorem toList_decimal_natCast (n : Nat) :
    (Number.decimal n).toList = Nat.toDigits 10 n := by
  simp [Number.toList_decimal]

/-- A whole double is written as the roundest of its integers. -/
theorem plain_of_whole {rank whole : Nat} (finite : rank + 1 < finiteRanks)
    (units : unitsOfRank (rank + 1) = whole * unitsPerOne) :
    ∃ m : Nat, plain (.finite false ⟨rank + 1, finite⟩) = Number.decimal m ∧
      IsRoundest whole m := by
  have short := isShortest_shortest .up rank
  obtain ⟨exponent, roundest⟩ := short.isRoundest finite units
  refine ⟨_, ?_, roundest⟩
  rw [plain, signChars, if_neg Bool.false_ne_true, List.nil_append, plainDigits, if_pos exponent,
    Decimal.digitChars, ← toDigits_mul_ten_pow (digits_pos_of_rankOf short.reads_back),
    ← String.toList_inj, String.toList_ofList, toList_decimal_natCast]

/-- An integer beyond the signed words that fits an unsigned one has a whole double. -/
theorem exists_ofInt_eq_finite {n : Int} (not_signed : ¬ Number.FitsSigned n)
    (unsigned : Number.FitsUnsigned n) :
    ∃ (rank whole : Nat) (finite : rank + 1 < finiteRanks),
      ofInt n = .finite false ⟨rank + 1, finite⟩ ∧
      unitsOfRank (rank + 1) = whole * unitsPerOne := by
  unfold Number.FitsSigned at not_signed
  unfold Number.FitsUnsigned at unsigned
  have above : 1086 * binade ≤ rankOfRatio n.natAbs 1 := by
    refine le_rankOfRatio Nat.one_pos ?_
    rw [unitsOfRank_two_pow 63, Nat.mul_one]
    exact Nat.mul_le_mul_right _ (by omega)
  have below : rankOfRatio n.natAbs 1 ≤ 1087 * binade := by
    refine rankOfRatio_le Nat.one_pos ?_
    rw [unitsOfRank_two_pow 64, Nat.mul_one]
    exact Nat.mul_le_mul_right _ (by omega)
  obtain ⟨rank, rank_eq⟩ : ∃ rank, rankOfRatio n.natAbs 1 = rank + 1 := by
    refine Nat.exists_eq_succ_of_ne_zero ?_
    unfold binade at above
    omega
  have finite : rank + 1 < finiteRanks := by
    unfold finiteRanks binade at *
    omega
  rw [rank_eq] at above
  have large : 1075 * binade ≤ rank + 1 := by
    unfold binade at *
    omega
  obtain ⟨whole, units⟩ := exists_unitsOfRank_eq_mul large
  refine ⟨rank, whole, finite, ?_, units⟩
  exact (ofInt_eq_finite_iff finite n).mpr ⟨n.natAbs, by omega, (rankOf_natural _).trans rank_eq⟩

end Binary64

/-! ## Placeholders -/

/-- A placeholder is written as the literal of its parameter, and the parts before and behind it are
filled as they would be on their own. -/
theorem interpolate_at_placeholder {before after left right : String} {ps qs : List Param}
    (stands : Quoting.outside.run before.toList = .outside)
    (fills : interpolate before ps = .ok left) (fills' : interpolate after qs = .ok right)
    (p : Param) :
    interpolate (before ++ "?" ++ after) (ps ++ p :: qs) = .ok (left ++ p.literal ++ right) := by
  obtain ⟨count, left_eq⟩ := of_interpolate_eq_ok fills
  obtain ⟨count', right_eq⟩ := of_interpolate_eq_ok fills'
  have text : (before ++ "?" ++ after).toList = before.toList ++ '?' :: after.toList := by
    simp [String.toList_append]
  have count_eq : Quoting.outside.count (before ++ "?" ++ after).toList =
      (ps ++ p :: qs).length := by
    rw [text, Quoting.count_append, stands, count, List.length_append, List.length_cons, ← count',
      Nat.add_comm (Quoting.count _ _)]
    rfl
  simp only [interpolate, count_eq, if_true, Except.ok.injEq]
  rw [← String.toList_inj, String.toList_ofList, text, Quoting.fill_append_of_count count, stands,
    String.toList_append, String.toList_append, left_eq, right_eq, List.append_assoc]
  rfl

/-- **The digits of an integer at a placeholder.** A signed word is written as itself. An integer
beyond the signed words is written as the roundest integer with the same double, so its own digits
are sent exactly if it is that one. -/
theorem interpolate_integer {n : Int} (word : Number.FitsSigned n ∨ Number.FitsUnsigned n) :
    ∃ (p : Param) (m : Int), Param.ofValue (.number (.integer n)) = .ok p ∧
      (∀ {before after left right : String} {ps qs : List Param},
        Quoting.outside.run before.toList = .outside →
        interpolate before ps = .ok left → interpolate after qs = .ok right →
        interpolate (before ++ "?" ++ after) (ps ++ p :: qs) =
          .ok (left ++ Number.decimal m ++ right)) ∧
      (Number.FitsSigned n → m = n) ∧
      (¬ Number.FitsSigned n → ∃ whole, (Binary64.ofInt n).toInt? = some whole ∧
        Binary64.IsRoundest whole m ∧ (m = n ↔ Binary64.IsRoundest whole n)) := by
  by_cases signed : Number.FitsSigned n
  · refine ⟨.integer (Int64.ofInt n), n, ?_, ?_, fun _ => rfl, absurd signed⟩
    · rw [Param.ofValue, Number.int64?, Number.toInt64?, if_pos signed]
    · intro before after left right ps qs stands fills fills'
      rw [interpolate_at_placeholder stands fills fills', Param.literal,
        Int64.toInt_ofInt_of_le signed.1 signed.2]
  · obtain ⟨rank, whole, finite, double, units⟩ :=
      Binary64.exists_ofInt_eq_finite signed (word.resolve_left signed)
    obtain ⟨m, text, roundest⟩ := Binary64.plain_of_whole finite units
    have value : (Binary64.ofInt n).toInt? = some (whole : Int) := by
      rw [double, Binary64.toInt?_eq_some_iff]
      exact (Binary64.signedUnits_eq_iff _ _ _).mpr ⟨whole, units, rfl⟩
    refine ⟨.real (Binary64.ofInt n), m, ?_, ?_, fun fits => absurd fits signed,
      fun _ => ⟨whole, value, roundest, ?_⟩⟩
    · rw [Param.ofValue, Number.int64?, Number.toInt64?, if_neg signed]
      rfl
    · intro before after left right ps qs stands fills fills'
      have literal : (Param.real (Binary64.ofInt n)).literal = Number.decimal m := by
        rw [double, Param.literal, ← text]
        exact if_pos rfl
      rw [interpolate_at_placeholder stands fills fills', literal]
    · exact ⟨fun eq => eq ▸ roundest, fun own => roundest.eq own⟩

/-- The least signed and the greatest unsigned word as the id of a statement. -/
theorem interpolate_integer_ends :
    (∃ p, Param.ofValue (.number (.integer (-9223372036854775808))) = .ok p ∧
      interpolate "DELETE FROM t WHERE id = ?" [p] =
        .ok "DELETE FROM t WHERE id = -9223372036854775808") ∧
    ∃ p m, Param.ofValue (.number (.integer 18446744073709551615)) = .ok p ∧
      interpolate "DELETE FROM t WHERE id = ?" [p] =
        .ok ("DELETE FROM t WHERE id = " ++ Number.decimal m) ∧
      Binary64.IsRoundest 18446744073709551616 m := by
  have stands : Quoting.outside.run "DELETE FROM t WHERE id = ".toList = .outside := by
    decide +kernel
  have fills : interpolate "DELETE FROM t WHERE id = " [] = .ok "DELETE FROM t WHERE id = " := by
    decide +kernel
  constructor
  · obtain ⟨p, m, bound, sent, same, -⟩ :=
      interpolate_integer (n := -9223372036854775808) (.inl (by decide))
    refine ⟨p, bound, (sent stands fills (show interpolate "" [] = .ok "" from rfl)).trans ?_⟩
    rw [same (by decide)]
    rfl
  · obtain ⟨p, m, bound, sent, -, beyond⟩ :=
      interpolate_integer (n := 18446744073709551615) (.inr (by decide))
    obtain ⟨whole, value, roundest, -⟩ := beyond (by decide)
    refine ⟨p, m, bound, (sent stands fills (show interpolate "" [] = .ok "" from rfl)).trans ?_, ?_⟩
    · rw [String.append_empty]
    · have two_pow : (Binary64.ofInt 18446744073709551615).toInt? = some 18446744073709551616 := by
        decide +kernel
      rwa [Option.some.inj (value.symm.trans two_pow)] at roundest

/-- An id whose digits are not sent. -/
theorem interpolate_integer_altered :
    (Param.ofValue (.number (.integer 9223372036854775808))).bind
        (fun p => interpolate "DELETE FROM t WHERE id = ?" [p]) =
      .ok "DELETE FROM t WHERE id = 9223372036854776000" := by
  decide +kernel

end SearchQL
