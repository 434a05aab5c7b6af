import Mathlib.Order.Monotone.Basic
import Mathlib.Tactic.Linarith
import Mathlib.Tactic.Ring
import SearchQL.Number.Binary64

/-!
# Rounding — the nearest rank, and the order it keeps

`rankOfRatio` is the only rounding there is. This module says what it does to an
arbitrary quotient: the rank that it gives is no further from the quotient than
the half-way points to its two neighbours (`two_mul_le_midpoint` and
`midpoint_mul_le`), and a greater quotient has no smaller rank
(`rankOfRatio_mono`).

Both rest on how ranks are spaced. Each rank has a shift, the power of two that
it counts in, and the next rank is one step of that size away
(`unitsOfRank_succ`), also where the shift changes. A step is small beside the
value: none is worth more than 2^53 of its steps (`unitsOfRank_succ_le`), and
from the second binade on each is worth at least 2^52 of them
(`mul_stepOfRank_le`).

Quotients are compared by cross-multiplication, so everything is about naturals.
-/

namespace SearchQL.Binary64

/-! ## The spacing of ranks -/

/-- How many units the next rank is away. -/
def stepOfRank (rank : Nat) : Nat := 2 ^ (rank / binade - 1)

/-- Counted in powers of two, a rank of a shift is worth as many of them as it lies above the start
of its shift. The first rank of the next shift fits in. -/
theorem unitsOfRank_shift {shift mantissa : Nat} (le : mantissa ≤ 2 * binade)
    (normal : shift = 0 ∨ binade ≤ mantissa) :
    unitsOfRank (shift * binade + mantissa) = mantissa * 2 ^ shift := by
  unfold unitsOfRank
  rcases le.lt_or_eq with lt | rfl
  · have own : (shift * binade + mantissa) / binade - 1 = shift := by
      unfold binade at *
      omega
    dsimp only
    rw [own, Nat.add_sub_cancel_left, Nat.shiftLeft_eq]
  · have next : (shift * binade + 2 * binade) / binade - 1 = shift + 1 := by
      unfold binade
      omega
    have above : shift * binade + 2 * binade - (shift + 1) * binade = binade := by
      unfold binade
      omega
    dsimp only
    rw [next, above, Nat.shiftLeft_eq, pow_succ]
    ring

/-- Every rank has a shift. -/
theorem exists_shift (rank : Nat) :
    ∃ shift mantissa, rank = shift * binade + mantissa ∧ mantissa < 2 * binade ∧
      (shift = 0 ∨ binade ≤ mantissa) ∧ stepOfRank rank = 2 ^ shift := by
  refine ⟨rank / binade - 1, rank - (rank / binade - 1) * binade, ?_, ?_, ?_, rfl⟩ <;>
    unfold binade <;> omega

theorem unitsOfRank_succ (rank : Nat) :
    unitsOfRank (rank + 1) = unitsOfRank rank + stepOfRank rank := by
  obtain ⟨shift, mantissa, rfl, lt, normal, step⟩ := exists_shift rank
  rw [step, Nat.add_assoc, unitsOfRank_shift lt (normal.imp_right (Nat.le_succ_of_le ·)),
    unitsOfRank_shift lt.le normal, Nat.succ_mul]

theorem stepOfRank_pos (rank : Nat) : 0 < stepOfRank rank := Nat.two_pow_pos _

theorem strictMono_unitsOfRank : StrictMono unitsOfRank :=
  strictMono_nat_of_lt_succ fun rank => by
    rw [unitsOfRank_succ]
    exact Nat.lt_add_of_pos_right (stepOfRank_pos rank)

/-- A step is small beside the value above it. -/
theorem unitsOfRank_succ_le (rank : Nat) :
    unitsOfRank (rank + 1) ≤ 2 * binade * stepOfRank rank := by
  obtain ⟨shift, mantissa, rfl, lt, normal, step⟩ := exists_shift rank
  rw [step, Nat.add_assoc, unitsOfRank_shift lt (normal.imp_right (Nat.le_succ_of_le ·))]
  exact Nat.mul_le_mul_right _ lt

/-- A step is no greater than it has to be for so high a rank, up to a binade. -/
theorem mul_stepOfRank_le {k rank : Nat} (small : k ≤ binade) (le : k ≤ rank) :
    k * stepOfRank rank ≤ unitsOfRank rank := by
  obtain ⟨shift, mantissa, rfl, lt, above, step⟩ := exists_shift rank
  rw [step, unitsOfRank_shift lt.le above]
  refine Nat.mul_le_mul_right _ ?_
  rcases above with rfl | above
  · simpa using le
  · exact small.trans above

/-- The powers of two from one on begin a binade each. -/
theorem unitsOfRank_two_pow (k : Nat) :
    unitsOfRank ((1023 + k) * binade) = 2 ^ k * unitsPerOne := by
  have own : (1023 + k) * binade = (1022 + k) * binade + binade := by
    unfold binade
    omega
  have spread (a b : Nat) : 2 ^ a * 2 ^ (b + k) = 2 ^ k * (1 <<< (a + b)) := by
    rw [Nat.one_shiftLeft]
    ring
  rw [own, unitsOfRank_shift (by unfold binade; omega) (.inr le_rfl)]
  exact spread 52 1022

/-! ## Rounding a quotient to a natural number -/

/-- No more than half of the divisor is lost in rounding down. -/
theorem two_mul_le_roundToEven {den : Nat} (pos : 0 < den) (num : Nat) :
    2 * num ≤ (2 * roundToEven num den + 1) * den := by
  have cut := Nat.div_add_mod' num den
  have rest := Nat.mod_lt num pos
  unfold roundToEven
  generalize num % den = r at *
  dsimp only
  split
  · linarith
  · split
    · linarith
    · split <;> linarith

/-- No more than half of the divisor is added in rounding up. -/
theorem roundToEven_mul_le {den : Nat} (pos : 0 < den) (num : Nat) :
    2 * roundToEven num den * den ≤ 2 * num + den := by
  have cut := Nat.div_add_mod' num den
  have rest := Nat.mod_lt num pos
  unfold roundToEven
  generalize num % den = r at *
  dsimp only
  split
  · linarith
  · split
    · linarith
    · split <;> linarith

theorem roundToEven_le_of_le {num den k : Nat} (pos : 0 < den) (h : num ≤ k * den) :
    roundToEven num den ≤ k := by
  have near := roundToEven_mul_le pos num
  have twice : 2 * roundToEven num den * den ≤ (2 * k + 1) * den := by linarith
  have bound := Nat.le_of_mul_le_mul_right twice pos
  omega

theorem le_roundToEven_of_le {num den k : Nat} (pos : 0 < den) (h : k * den ≤ num) :
    k ≤ roundToEven num den := by
  have near := two_mul_le_roundToEven pos num
  have twice : 2 * k * den ≤ (2 * roundToEven num den + 1) * den := by linarith
  have bound := Nat.le_of_mul_le_mul_right twice pos
  omega

/-- A fraction is rounded like its reduced form. -/
theorem roundToEven_mul_mul {k : Nat} (pos : 0 < k) (num den : Nat) :
    roundToEven (num * k) (den * k) = roundToEven num den := by
  have scaled (a b : Nat) : 2 * (a * k) < b * k ↔ 2 * a < b := by
    rw [← Nat.mul_assoc, Nat.mul_lt_mul_right pos]
  have scaled' (a b : Nat) : a * k < 2 * (b * k) ↔ a < 2 * b := by
    rw [← Nat.mul_assoc, Nat.mul_lt_mul_right pos]
  simp only [roundToEven, Nat.mul_div_mul_right _ _ pos, Nat.mul_mod_mul_right, scaled, scaled']

/-! ## The nearest rank -/

/-- Twice the point half-way between a rank and the next one, in units. -/
def midpoint (rank : Nat) : Nat := unitsOfRank rank + unitsOfRank (rank + 1)

theorem midpoint_le_midpoint {a b : Nat} (h : a ≤ b) : midpoint a ≤ midpoint b :=
  Nat.add_le_add (strictMono_unitsOfRank.monotone h)
    (strictMono_unitsOfRank.monotone (Nat.succ_le_succ h))

/-- The rank of a quotient, its shift and what is rounded. -/
theorem exists_rankOfRatio_eq (num : Nat) {den : Nat} (pos : 0 < den) :
    ∃ shift, rankOfRatio num den =
        shift * binade + roundToEven (num * unitsPerOne) (den * 2 ^ shift) ∧
      roundToEven (num * unitsPerOne) (den * 2 ^ shift) ≤ 2 * binade ∧
      (shift = 0 ∨ binade * (den * 2 ^ shift) ≤ num * unitsPerOne) := by
  generalize shift_eq : (num * unitsPerOne / den).log2 - 52 = shift
  have scaled : 0 < den * 2 ^ shift := Nat.mul_pos pos (Nat.two_pow_pos shift)
  refine ⟨shift, ?_, ?_, ?_⟩
  · simp only [rankOfRatio, shift_eq, Nat.shiftLeft_eq]
  · refine roundToEven_le_of_le scaled ?_
    have below : num * unitsPerOne / den < 2 ^ (shift + 53) :=
      (Nat.lt_log2_self).trans_le (Nat.pow_le_pow_right (by decide) (by omega))
    have bound := (Nat.div_lt_iff_lt_mul pos).mp below
    calc num * unitsPerOne ≤ 2 ^ (shift + 53) * den := bound.le
      _ = 2 * binade * (den * 2 ^ shift) := by rw [pow_add]; unfold binade; ring
  · rcases Nat.eq_zero_or_pos shift with zero | some_shift
    · exact .inl zero
    · refine .inr ?_
      have not_zero : num * unitsPerOne / den ≠ 0 := by
        intro none
        rw [none] at shift_eq
        simp at shift_eq
        omega
      have above : 2 ^ (shift + 52) ≤ num * unitsPerOne / den :=
        (Nat.le_log2 not_zero).mp (by omega)
      have bound := (Nat.le_div_iff_mul_le pos).mp above
      calc binade * (den * 2 ^ shift) = 2 ^ (shift + 52) * den := by rw [pow_add]; unfold binade; ring
        _ ≤ num * unitsPerOne := bound

/-- A quotient is not beyond the point half-way from its rank to the next one. -/
theorem two_mul_le_midpoint (num : Nat) {den : Nat} (pos : 0 < den) :
    2 * (num * unitsPerOne) ≤ midpoint (rankOfRatio num den) * den := by
  obtain ⟨shift, rank_eq, le, normal⟩ := exists_rankOfRatio_eq num pos
  have scaled : 0 < den * 2 ^ shift := Nat.mul_pos pos (Nat.two_pow_pos shift)
  have near := two_mul_le_roundToEven scaled (num * unitsPerOne)
  have above := normal.imp_right (le_roundToEven_of_le scaled)
  generalize roundToEven (num * unitsPerOne) (den * 2 ^ shift) = k at *
  have step : 2 ^ shift ≤ stepOfRank (shift * binade + k) := by
    refine Nat.pow_le_pow_right (by decide) ?_
    unfold binade at *
    omega
  calc 2 * (num * unitsPerOne) ≤ (2 * k + 1) * (den * 2 ^ shift) := near
    _ = (2 * (k * 2 ^ shift) + 2 ^ shift) * den := by ring
    _ ≤ midpoint (rankOfRatio num den) * den := by
      refine Nat.mul_le_mul_right den ?_
      rw [rank_eq, midpoint, unitsOfRank_succ, unitsOfRank_shift le above]
      linarith

/-- Nor is it below the point half-way from the rank before. -/
theorem midpoint_mul_le {num den rank : Nat} (pos : 0 < den)
    (h : rankOfRatio num den = rank + 1) :
    midpoint rank * den ≤ 2 * (num * unitsPerOne) := by
  obtain ⟨shift, rank_eq, le, normal⟩ := exists_rankOfRatio_eq num pos
  have scaled : 0 < den * 2 ^ shift := Nat.mul_pos pos (Nat.two_pow_pos shift)
  have near := roundToEven_mul_le scaled (num * unitsPerOne)
  have above := normal.imp_right (le_roundToEven_of_le scaled)
  generalize roundToEven (num * unitsPerOne) (den * 2 ^ shift) = k at *
  have units : unitsOfRank (rank + 1) = k * 2 ^ shift := by
    rw [← h, rank_eq, unitsOfRank_shift le above]
  by_cases first : shift ≠ 0 ∧ k = binade
  · -- the first rank of its shift: the quotient is no smaller than the rank itself
    obtain ⟨some_shift, rfl⟩ := first
    have before := strictMono_unitsOfRank (Nat.lt_add_one rank)
    calc midpoint rank * den ≤ 2 * (binade * 2 ^ shift) * den := by
          refine Nat.mul_le_mul_right den ?_
          rw [midpoint, units]
          omega
      _ = 2 * (binade * (den * 2 ^ shift)) := by ring
      _ ≤ 2 * (num * unitsPerOne) :=
          Nat.mul_le_mul_left 2 (normal.resolve_left some_shift)
  · -- any other rank: the one before counts in the same power of two
    obtain ⟨j, rfl⟩ : ∃ j, k = j + 1 := by
      refine Nat.exists_eq_succ_of_ne_zero ?_
      unfold binade at *
      omega
    have rank_before : rank = shift * binade + j := by omega
    have units_before : unitsOfRank rank = j * 2 ^ shift := by
      rw [rank_before]
      refine unitsOfRank_shift (Nat.le_of_succ_le le) ?_
      omega
    have sum : midpoint rank * den = (2 * j + 1) * (den * 2 ^ shift) := by
      rw [midpoint, units, units_before]
      ring
    rw [sum]
    linarith

/-- A quotient below the point half-way to the next rank has no greater rank. -/
theorem rankOfRatio_le_of_lt_midpoint {num den rank : Nat} (pos : 0 < den)
    (h : 2 * (num * unitsPerOne) < midpoint rank * den) : rankOfRatio num den ≤ rank := by
  by_contra! above
  obtain ⟨before, eq⟩ := Nat.exists_eq_succ_of_ne_zero (Nat.ne_zero_of_lt above)
  have beyond := midpoint_mul_le pos eq
  have further := Nat.mul_le_mul_right den (midpoint_le_midpoint (show rank ≤ before by omega))
  omega

/-- A quotient beyond the point half-way from a rank to the next one has a greater rank. -/
theorem lt_rankOfRatio_of_midpoint_lt {num den rank : Nat} (pos : 0 < den)
    (h : midpoint rank * den < 2 * (num * unitsPerOne)) : rank < rankOfRatio num den := by
  by_contra! below
  have before := two_mul_le_midpoint num pos
  have further := Nat.mul_le_mul_right den (midpoint_le_midpoint below)
  omega

/-- A quotient that is no smaller than the value of a rank has no smaller rank. -/
theorem le_rankOfRatio {num den rank : Nat} (pos : 0 < den)
    (h : unitsOfRank rank * den ≤ num * unitsPerOne) : rank ≤ rankOfRatio num den := by
  cases rank with
  | zero => exact Nat.zero_le _
  | succ rank =>
    refine lt_rankOfRatio_of_midpoint_lt pos ?_
    have before := strictMono_unitsOfRank (Nat.lt_add_one rank)
    have half : midpoint rank * den < 2 * unitsOfRank (rank + 1) * den :=
      Nat.mul_lt_mul_of_pos_right (by rw [midpoint]; omega) pos
    linarith

/-- A quotient that is no greater than the value of a rank has no greater rank. -/
theorem rankOfRatio_le {num den rank : Nat} (pos : 0 < den)
    (h : num * unitsPerOne ≤ unitsOfRank rank * den) : rankOfRatio num den ≤ rank := by
  refine rankOfRatio_le_of_lt_midpoint pos ?_
  have next := strictMono_unitsOfRank (Nat.lt_add_one rank)
  have half : 2 * unitsOfRank rank * den < midpoint rank * den :=
    Nat.mul_lt_mul_of_pos_right (by rw [midpoint]; omega) pos
  linarith

/-! ## Order -/

/-- Equal quotients have one rank. -/
theorem rankOfRatio_congr {a b c d : Nat} (hb : 0 < b) (hd : 0 < d) (h : a * d = c * b) :
    rankOfRatio a b = rankOfRatio c d := by
  have scaled : a * unitsPerOne * d = c * unitsPerOne * b := by
    rw [Nat.mul_right_comm, h, Nat.mul_right_comm]
  have whole : a * unitsPerOne / b = c * unitsPerOne / d := by
    rw [← Nat.mul_div_mul_right _ b hd, scaled, Nat.mul_comm b d, Nat.mul_div_mul_right _ d hb]
  simp only [rankOfRatio, whole, Nat.shiftLeft_eq]
  generalize (c * unitsPerOne / d).log2 - 52 = shift
  have steps : b * 2 ^ shift * d = d * 2 ^ shift * b := by ring
  rw [← roundToEven_mul_mul hd (a * unitsPerOne), scaled, steps, roundToEven_mul_mul hb]

/-- A greater quotient has no smaller rank. -/
theorem rankOfRatio_mono {a b c d : Nat} (hb : 0 < b) (hd : 0 < d) (h : a * d ≤ c * b) :
    rankOfRatio a b ≤ rankOfRatio c d := by
  rcases h.eq_or_lt with eq | lt
  · exact (rankOfRatio_congr hb hd eq).le
  · by_contra! above
    -- both quotients would lie on the wrong side of one half-way point
    obtain ⟨before, eq⟩ := Nat.exists_eq_succ_of_ne_zero (Nat.ne_zero_of_lt above)
    have first := Nat.mul_le_mul_right d (midpoint_mul_le hb eq)
    have second := Nat.mul_le_mul_right b (two_mul_le_midpoint c hd)
    have between := Nat.mul_le_mul_right (d * b)
      (midpoint_le_midpoint (show rankOfRatio c d ≤ before by omega))
    have wrong : c * b * unitsPerOne ≤ a * d * unitsPerOne := by linarith
    exact absurd (Nat.le_of_mul_le_mul_right wrong unitsPerOne_pos) (Nat.not_le.mpr lt)

end SearchQL.Binary64
