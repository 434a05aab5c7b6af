import Mathlib.Algebra.Order.Field.Basic
import Mathlib.Data.Rat.Cast.Order
import Mathlib.Tactic.FieldSimp
import Mathlib.Tactic.Positivity
import SearchQL.Number.Decimal
import SearchQL.Proofs.Number.Rounding

/-!
# Magnitudes — ranks and decimals as rational numbers

A decimal and a rank stand for exact values, and what rounding does to a decimal
is a comparison of two such values. Here they are rational numbers, so that the
search for a short decimal can be argued about on the number line: the rank of a
decimal (`rankOf`) grows with its value, and it is a given rank exactly between
the half-way points to the neighbours, which lie half a `spacing` away.
-/

namespace SearchQL

/-- The exact value of a decimal. -/
def Decimal.value (d : Decimal) : ℚ := d.digits * 10 ^ d.exponent

namespace Binary64

/-- The exact value of a rank. -/
def magnitude (rank : Nat) : ℚ := unitsOfRank rank / unitsPerOne

/-- How far the next rank is away. -/
def spacing (rank : Nat) : ℚ := stepOfRank rank / unitsPerOne

/-- The rank that a decimal is rounded to. -/
def rankOf (d : Decimal) : Nat := rankOfRatio d.ratio.1 d.ratio.2

theorem readsBack_iff {rank : Nat} {d : Decimal} : readsBack rank d = true ↔ rankOf d = rank := by
  rw [readsBack, beq_iff_eq, rankOf]

theorem cast_unitsPerOne_pos : (0 : ℚ) < unitsPerOne := Nat.cast_pos.mpr unitsPerOne_pos

theorem ten_zpow_eq_div (place : Int) :
    (10 : ℚ) ^ place = 10 ^ place.toNat / 10 ^ (-place).toNat := by
  rw [← zpow_natCast, ← zpow_natCast, ← zpow_sub₀ (by norm_num), Int.toNat_sub_toNat_neg]

theorem ratio_pos (d : Decimal) : 0 < d.ratio.2 := Nat.pow_pos (by decide)

theorem ratio_value (d : Decimal) : (d.ratio.1 : ℚ) / d.ratio.2 = d.value := by
  rw [Decimal.value, ten_zpow_eq_div]
  simp only [Decimal.ratio, Nat.pow_eq, Nat.cast_mul, Nat.cast_pow, Nat.cast_ofNat, mul_div_assoc]

/-! ## Ranks -/

theorem magnitude_succ (rank : Nat) : magnitude (rank + 1) = magnitude rank + spacing rank := by
  rw [magnitude, magnitude, spacing, unitsOfRank_succ, Nat.cast_add, add_div]

theorem spacing_pos (rank : Nat) : 0 < spacing rank :=
  div_pos (Nat.cast_pos.mpr (stepOfRank_pos rank)) cast_unitsPerOne_pos

theorem strictMono_magnitude : StrictMono magnitude := fun _ _ lt =>
  div_lt_div_of_pos_right (Nat.cast_lt.mpr (strictMono_unitsOfRank lt)) cast_unitsPerOne_pos

theorem magnitude_zero : magnitude 0 = 0 := by
  simp [magnitude, unitsOfRank]

theorem magnitude_succ_le (rank : Nat) : magnitude (rank + 1) ≤ 2 ^ 53 * spacing rank := by
  have units : (unitsOfRank (rank + 1) : ℚ) ≤ (2 * binade : Nat) * stepOfRank rank := by
    exact_mod_cast unitsOfRank_succ_le rank
  rw [magnitude, spacing, ← mul_div_assoc]
  refine div_le_div_of_nonneg_right (units.trans_eq ?_) cast_unitsPerOne_pos.le
  norm_num [binade]

theorem mul_spacing_le {k rank : Nat} (small : k ≤ binade) (le : k ≤ rank) :
    k * spacing rank ≤ magnitude rank := by
  rw [magnitude, spacing, ← mul_div_assoc]
  refine div_le_div_of_nonneg_right ?_ cast_unitsPerOne_pos.le
  exact_mod_cast mul_stepOfRank_le small le

theorem spacing_le_spacing {a b : Nat} (h : a ≤ b) : spacing a ≤ spacing b := by
  refine div_le_div_of_nonneg_right (Nat.cast_le.mpr ?_) cast_unitsPerOne_pos.le
  exact Nat.pow_le_pow_right (by decide) (Nat.sub_le_sub_right (Nat.div_le_div_right h) 1)

/-! ## Half-way points -/

theorem halfway_eq (rank : Nat) :
    magnitude rank + spacing rank / 2 = (midpoint rank : ℚ) / (2 * unitsPerOne) := by
  have pos := cast_unitsPerOne_pos
  rw [magnitude, spacing, midpoint, unitsOfRank_succ]
  push_cast
  field_simp
  ring

theorem value_lt_halfway_iff {d : Decimal} {rank : Nat} :
    d.value < magnitude rank + spacing rank / 2 ↔
      2 * (d.ratio.1 * unitsPerOne) < midpoint rank * d.ratio.2 := by
  have pos := cast_unitsPerOne_pos
  rw [← ratio_value, halfway_eq, div_lt_div_iff₀ (Nat.cast_pos.mpr (ratio_pos d)) (by positivity),
    Nat.mul_left_comm]
  exact_mod_cast Iff.rfl

theorem halfway_lt_value_iff {d : Decimal} {rank : Nat} :
    magnitude rank + spacing rank / 2 < d.value ↔
      midpoint rank * d.ratio.2 < 2 * (d.ratio.1 * unitsPerOne) := by
  have pos := cast_unitsPerOne_pos
  rw [← ratio_value, halfway_eq, div_lt_div_iff₀ (by positivity) (Nat.cast_pos.mpr (ratio_pos d)),
    Nat.mul_left_comm]
  exact_mod_cast Iff.rfl

/-! ## The rank of a decimal -/

theorem rankOf_mono {d e : Decimal} (h : d.value ≤ e.value) : rankOf d ≤ rankOf e := by
  rw [← ratio_value, ← ratio_value, div_le_div_iff₀ (Nat.cast_pos.mpr (ratio_pos d))
    (Nat.cast_pos.mpr (ratio_pos e))] at h
  exact rankOfRatio_mono (ratio_pos d) (ratio_pos e) (by exact_mod_cast h)

theorem rankOf_congr {d e : Decimal} (h : d.value = e.value) : rankOf d = rankOf e :=
  (rankOf_mono h.le).antisymm (rankOf_mono h.ge)

theorem rankOf_le_of_lt_halfway {d : Decimal} {rank : Nat}
    (h : d.value < magnitude rank + spacing rank / 2) : rankOf d ≤ rank :=
  rankOfRatio_le_of_lt_midpoint (ratio_pos d) (value_lt_halfway_iff.mp h)

theorem lt_rankOf_of_halfway_lt {d : Decimal} {rank : Nat}
    (h : magnitude rank + spacing rank / 2 < d.value) : rank < rankOf d :=
  lt_rankOfRatio_of_midpoint_lt (ratio_pos d) (halfway_lt_value_iff.mp h)

theorem rankOf_le {d : Decimal} {rank : Nat} (h : d.value ≤ magnitude rank) : rankOf d ≤ rank :=
  rankOf_le_of_lt_halfway (by linarith [spacing_pos rank])

theorem le_rankOf {d : Decimal} {rank : Nat} (h : magnitude rank ≤ d.value) :
    rank ≤ rankOf d := by
  cases rank with
  | zero => exact Nat.zero_le _
  | succ rank =>
    refine lt_rankOf_of_halfway_lt ?_
    rw [magnitude_succ] at h
    linarith [spacing_pos rank]

/-- A decimal is at most half-way to the rank above its own. -/
theorem value_le_halfway (d : Decimal) :
    d.value ≤ magnitude (rankOf d) + spacing (rankOf d) / 2 := by
  rw [← not_lt, halfway_lt_value_iff, Nat.not_lt]
  exact two_mul_le_midpoint _ (ratio_pos d)

/-- A decimal is at least half-way from the rank below its own. -/
theorem halfway_le_value {d : Decimal} {rank : Nat} (h : rankOf d = rank + 1) :
    magnitude rank + spacing rank / 2 ≤ d.value := by
  rw [← not_lt, value_lt_halfway_iff, Nat.not_lt]
  exact midpoint_mul_le (ratio_pos d) h

end Binary64

end SearchQL
