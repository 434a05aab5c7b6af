import SearchQL.Proofs.Number.Magnitude

/-!
# The shortest decimal — what the search finds

`shortest` tries one digit more after another and looks at no more than two
decimals each time, the neighbours of the value on the grid of that many digits.
That this is enough is `isShortest_shortest`: nothing on a coarser grid reads back
as the rank, and of what reads back on its own grid it is the nearest. So no
decimal of the rank has fewer digits (`IsShortest.length_le`).

Two neighbours are enough because the decimals of a rank are an interval around
it: with any decimal of the grid that reads back, the neighbour on its side of the
value does (`neighbour_reads`).

The search ends because a grid with sixteen further digits is finer than the
spacing of the ranks, so the nearer neighbour is within half a spacing
(`exists_shortestAt?`). The exact decimal that `shortest` would fall back on is
never written.

The one count without a coarser count before it is the first. There the coarser
decimal could only be the next power of ten, and where that reads back beside a
digit of its own the spacing is as large as the place of the first digit. This
leaves nine ranks, which are looked at one by one
(`leadOf_lt_exponent_shortest`).
-/

namespace SearchQL.Binary64

/-! ## Grids -/

theorem ten_zpow_pos (place : Int) : (0 : ℚ) < 10 ^ place := zpow_pos (by norm_num) place

theorem value_le_value {a b : Nat} (le : a ≤ b) (place : Int) :
    (⟨a, place⟩ : Decimal).value ≤ (⟨b, place⟩ : Decimal).value :=
  mul_le_mul_of_nonneg_right (Nat.cast_le.mpr le) (ten_zpow_pos place).le

/-- A decimal of a grid lies on every finer one. -/
theorem exists_value_eq {d : Decimal} {place : Int} (le : place ≤ d.exponent) :
    ∃ k, (⟨k, place⟩ : Decimal).value = d.value := by
  obtain ⟨j, exponent⟩ := Int.le.dest le
  refine ⟨d.digits * 10 ^ j, ?_⟩
  rw [Decimal.value, Decimal.value, ← exponent, zpow_add₀ (by norm_num), zpow_natCast]
  push_cast
  ring

/-- Between a decimal that reads back and the value itself, everything reads back. -/
theorem rankOf_eq_of_le {d e : Decimal} {rank : Nat} (reads : rankOf d = rank)
    (below : d.value ≤ e.value) (le : e.value ≤ magnitude rank) : rankOf e = rank :=
  (rankOf_le le).antisymm (reads ▸ rankOf_mono below)

theorem rankOf_eq_of_ge {d e : Decimal} {rank : Nat} (reads : rankOf d = rank)
    (above : e.value ≤ d.value) (ge : magnitude rank ≤ e.value) : rankOf e = rank :=
  (reads ▸ rankOf_mono above : rankOf e ≤ rank).antisymm (le_rankOf ge)

/-! ## The two decimals around a rank -/

section Grid

variable (rank : Nat) (place : Int)

/-- A rank divided by a grid. -/
def cutOf : GridCut := gridCut (unitsOfRank rank) unitsPerOne place

/-- The greatest decimal of a grid that is not beyond a rank. -/
def lower : Decimal := ⟨(cutOf rank place).below, place⟩

/-- The next decimal of the grid. -/
def upper : Decimal := ⟨(cutOf rank place).below + 1, place⟩

theorem shortestAt?_eq_pick? (tie : Tie) :
    shortestAt? tie rank place =
      pick? (readsBack rank) ((cutOf rank place).prefersLow tie) (lower rank place)
        (upper rank place) := by
  rw [shortestAt?]
  rfl

theorem rest_lt_step : (cutOf rank place).rest < (cutOf rank place).step :=
  Nat.mod_lt _ (Nat.mul_pos unitsPerOne_pos (Nat.pow_pos (by decide)))

theorem magnitude_eq_cut :
    magnitude rank = ((cutOf rank place).below + (cutOf rank place).rest / (cutOf rank place).step) *
      10 ^ place := by
  have units_pos := cast_unitsPerOne_pos
  have whole : ((cutOf rank place).step * (cutOf rank place).below + (cutOf rank place).rest : ℚ) =
      unitsOfRank rank * 10 ^ (-place).toNat := by
    exact_mod_cast Nat.div_add_mod (unitsOfRank rank * 10 ^ (-place).toNat)
      (unitsPerOne * 10 ^ place.toNat)
  have step : ((cutOf rank place).step : ℚ) = unitsPerOne * 10 ^ place.toNat := by
    exact_mod_cast (rfl : (cutOf rank place).step = unitsPerOne * 10 ^ place.toNat)
  rw [step] at whole ⊢
  rw [magnitude, ten_zpow_eq_div]
  field_simp
  linarith

/-- The share of the grid that the lower decimal is short of the rank. -/
theorem value_lower :
    (lower rank place).value =
      magnitude rank - (cutOf rank place).rest / (cutOf rank place).step * 10 ^ place := by
  rw [magnitude_eq_cut rank place, Decimal.value, lower]
  ring

theorem value_upper : (upper rank place).value = (lower rank place).value + 10 ^ place := by
  simp only [Decimal.value, lower, upper]
  push_cast
  ring

theorem cast_step_pos : (0 : ℚ) < (cutOf rank place).step :=
  Nat.cast_pos.mpr (Nat.zero_lt_of_lt (rest_lt_step rank place))

theorem value_lower_le : (lower rank place).value ≤ magnitude rank := by
  have step_pos := cast_step_pos rank place
  have pos := ten_zpow_pos place
  rw [value_lower, sub_le_self_iff]
  positivity

theorem lt_value_upper : magnitude rank < (upper rank place).value := by
  have share : ((cutOf rank place).rest / (cutOf rank place).step : ℚ) < 1 :=
    (div_lt_one (cast_step_pos rank place)).mpr (Nat.cast_lt.mpr (rest_lt_step rank place))
  have lost := mul_lt_mul_of_pos_right share (ten_zpow_pos place)
  rw [value_upper, value_lower]
  linarith

/-- No decimal of the grid lies between the two. -/
theorem le_lower_or_upper_le {d : Decimal} (on_grid : place ≤ d.exponent) :
    d.value ≤ (lower rank place).value ∨ (upper rank place).value ≤ d.value := by
  obtain ⟨k, value⟩ := exists_value_eq on_grid
  rw [← value]
  rcases Nat.lt_or_ge (cutOf rank place).below k with above | below
  · exact .inr (value_le_value above place)
  · exact .inl (value_le_value below place)

/-- How much nearer the lower one is. -/
theorem distance_sub_distance :
    ((upper rank place).value - magnitude rank) - (magnitude rank - (lower rank place).value) =
      ((cutOf rank place).step - 2 * (cutOf rank place).rest) *
        (10 ^ place / (cutOf rank place).step) := by
  have step_pos := cast_step_pos rank place
  rw [value_upper, value_lower]
  field_simp
  ring

theorem lower_le_iff :
    magnitude rank - (lower rank place).value ≤ (upper rank place).value - magnitude rank ↔
      2 * (cutOf rank place).rest ≤ (cutOf rank place).step := by
  have scale := div_pos (ten_zpow_pos place) (cast_step_pos rank place)
  rw [← sub_nonneg, distance_sub_distance, mul_nonneg_iff_of_pos_right scale, sub_nonneg]
  exact_mod_cast Iff.rfl

theorem lower_lt_iff :
    magnitude rank - (lower rank place).value < (upper rank place).value - magnitude rank ↔
      2 * (cutOf rank place).rest < (cutOf rank place).step := by
  have scale := div_pos (ten_zpow_pos place) (cast_step_pos rank place)
  rw [← sub_pos, distance_sub_distance, mul_pos_iff_of_pos_right scale, sub_pos]
  exact_mod_cast Iff.rfl

end Grid

/-! ## What the search takes on one grid -/

/-- The nearest to a rank of the decimals that read back as it and lie on its own grid or a coarser
one. Where ties go up it is the greater of two that are equally near. -/
structure IsNearest (tie : Tie) (rank : Nat) (d : Decimal) : Prop where
  reads_back : rankOf d = rank
  nearest : ∀ other : Decimal, d.exponent ≤ other.exponent → rankOf other = rank →
    |d.value - magnitude rank| ≤ |other.value - magnitude rank|
  greater_of_tie : tie = .up → ∀ other : Decimal, d.exponent ≤ other.exponent →
    rankOf other = rank → |d.value - magnitude rank| = |other.value - magnitude rank| →
    other.value ≤ d.value

/-! The search compares the distances of the two by the remainder of the division. -/

theorem lower_le_of_prefersLow {tie : Tie} {rank : Nat} {place : Int}
    (h : (cutOf rank place).prefersLow tie = true) :
    magnitude rank - (lower rank place).value ≤ (upper rank place).value - magnitude rank := by
  rw [lower_le_iff]
  unfold GridCut.prefersLow at h
  split at h
  · next tied => exact tied.le
  · exact (of_decide_eq_true h).le

theorem lower_lt_of_prefersLow_up {rank : Nat} {place : Int}
    (h : (cutOf rank place).prefersLow .up = true) :
    magnitude rank - (lower rank place).value < (upper rank place).value - magnitude rank := by
  rw [lower_lt_iff]
  unfold GridCut.prefersLow at h
  split at h
  · cases h
  · exact of_decide_eq_true h

theorem upper_le_of_not_prefersLow {tie : Tie} {rank : Nat} {place : Int}
    (h : (cutOf rank place).prefersLow tie = false) :
    (upper rank place).value - magnitude rank ≤ magnitude rank - (lower rank place).value := by
  rw [← not_lt, lower_lt_iff, not_lt]
  unfold GridCut.prefersLow at h
  split at h
  · next tied => exact tied.ge
  · exact Nat.le_of_not_lt (of_decide_eq_false h)

theorem of_pick?_eq_some {reads : Decimal → Bool} {preferLow : Bool} {low high d : Decimal}
    (h : pick? reads preferLow low high = some d) :
    (d = low ∧ reads low = true ∧ (reads high = true → preferLow = true)) ∨
      (d = high ∧ reads high = true ∧ (reads low = true → preferLow = false)) := by
  unfold pick? at h
  cases low_reads : reads low <;> cases high_reads : reads high <;> cases preferLow <;>
    simp_all

theorem of_pick?_eq_none {reads : Decimal → Bool} {preferLow : Bool} {low high : Decimal}
    (h : pick? reads preferLow low high = none) : reads low = false ∧ reads high = false := by
  unfold pick? at h
  cases low_reads : reads low <;> cases high_reads : reads high <;> simp_all

variable {tie : Tie} {rank : Nat} {place : Int} {d : Decimal}

/-- With any decimal of the grid the neighbour on its side of the rank reads back too. -/
theorem neighbour_reads (on_grid : place ≤ d.exponent) (reads : rankOf d = rank) :
    (d.value ≤ (lower rank place).value ∧ readsBack rank (lower rank place) = true) ∨
      ((upper rank place).value ≤ d.value ∧ readsBack rank (upper rank place) = true) := by
  rcases le_lower_or_upper_le rank place on_grid with below | above
  · exact .inl ⟨below, readsBack_iff.mpr (rankOf_eq_of_le reads below (value_lower_le rank place))⟩
  · exact .inr ⟨above,
      readsBack_iff.mpr (rankOf_eq_of_ge reads above (lt_value_upper rank place).le)⟩

/-- Where the search on a grid finds nothing, nothing of that grid reads back. -/
theorem rankOf_ne_of_shortestAt?_eq_none (h : shortestAt? tie rank place = none)
    (on_grid : place ≤ d.exponent) : rankOf d ≠ rank := by
  rw [shortestAt?_eq_pick?] at h
  obtain ⟨low_fails, high_fails⟩ := of_pick?_eq_none h
  intro reads
  rcases neighbour_reads on_grid reads with ⟨-, low_reads⟩ | ⟨-, high_reads⟩
  · exact absurd low_reads (by simp [low_fails])
  · exact absurd high_reads (by simp [high_fails])

theorem isNearest_lower (low_reads : readsBack rank (lower rank place) = true)
    (preferred : readsBack rank (upper rank place) = true →
      (cutOf rank place).prefersLow tie = true) : IsNearest tie rank (lower rank place) := by
  have le := value_lower_le rank place
  have lt := lt_value_upper rank place
  have own : |(lower rank place).value - magnitude rank| =
      magnitude rank - (lower rank place).value := by
    rw [abs_sub_comm, abs_of_nonneg (by linarith)]
  refine ⟨readsBack_iff.mp low_reads, fun other (on_grid : place ≤ other.exponent) reads => ?_, ?_⟩
  · rw [own]
    rcases neighbour_reads on_grid reads with ⟨below, -⟩ | ⟨above, high_reads⟩
    · rw [abs_sub_comm, abs_of_nonneg (by linarith)]
      linarith
    · have nearer := lower_le_of_prefersLow (preferred high_reads)
      rw [abs_of_nonneg (by linarith)]
      linarith
  · rintro rfl other (on_grid : place ≤ other.exponent) reads same
    rcases neighbour_reads on_grid reads with ⟨below, -⟩ | ⟨above, high_reads⟩
    · exact below
    · have nearer := lower_lt_of_prefersLow_up (preferred high_reads)
      rw [own, abs_of_nonneg (by linarith)] at same
      linarith

theorem isNearest_upper (high_reads : readsBack rank (upper rank place) = true)
    (preferred : readsBack rank (lower rank place) = true →
      (cutOf rank place).prefersLow tie = false) : IsNearest tie rank (upper rank place) := by
  have le := value_lower_le rank place
  have lt := lt_value_upper rank place
  have own : |(upper rank place).value - magnitude rank| =
      (upper rank place).value - magnitude rank := abs_of_nonneg (by linarith)
  refine ⟨readsBack_iff.mp high_reads, fun other (on_grid : place ≤ other.exponent) reads => ?_, ?_⟩
  · rw [own]
    rcases neighbour_reads on_grid reads with ⟨below, low_reads⟩ | ⟨above, -⟩
    · have nearer := upper_le_of_not_prefersLow (preferred low_reads)
      rw [abs_sub_comm, abs_of_nonneg (by linarith)]
      linarith
    · rw [abs_of_nonneg (by linarith)]
      linarith
  · rintro rfl other (on_grid : place ≤ other.exponent) reads same
    rcases neighbour_reads on_grid reads with ⟨below, -⟩ | ⟨above, -⟩
    · linarith
    · rw [own, abs_of_nonneg (by linarith)] at same
      linarith

/-- What the search finds on a grid is the nearest of the decimals there that read back. -/
theorem isNearest_of_shortestAt? (h : shortestAt? tie rank place = some d) :
    d.exponent = place ∧ IsNearest tie rank d := by
  rw [shortestAt?_eq_pick?] at h
  obtain ⟨rfl, reads, preferred⟩ | ⟨rfl, reads, preferred⟩ := of_pick?_eq_some h
  · exact ⟨rfl, isNearest_lower reads preferred⟩
  · exact ⟨rfl, isNearest_upper reads preferred⟩

/-! ## Seventeen digits suffice -/

/-- A grid with sixteen further digits is finer than the spacing, so one of the two neighbours is
within half a spacing. -/
theorem exists_shortestAt? (tie : Tie) {rank : Nat} {place : Int}
    (fine : 10 ^ 16 * 10 ^ place ≤ magnitude (rank + 1)) :
    ∃ d, shortestAt? tie (rank + 1) place = some d := by
  refine Option.ne_none_iff_exists'.mp fun none => ?_
  have finer : (10 : ℚ) ^ place < spacing rank := by
    linarith [magnitude_succ_le rank, spacing_pos rank]
  have finer_above : (10 : ℚ) ^ place < spacing (rank + 1) := by
    linarith [magnitude_succ_le (rank + 1), spacing_pos (rank + 1),
      strictMono_magnitude (Nat.lt_add_one (rank + 1))]
  have width := value_upper (rank + 1) place
  rcases le_or_gt (magnitude (rank + 1) - (lower (rank + 1) place).value) (10 ^ place / 2) with
    near | far
  · refine rankOf_ne_of_shortestAt?_eq_none none (le_refl place)
      ((rankOf_le (value_lower_le (rank + 1) place)).antisymm (lt_rankOf_of_halfway_lt ?_))
    linarith [magnitude_succ rank]
  · refine rankOf_ne_of_shortestAt?_eq_none none (le_refl place)
      ((rankOf_le_of_lt_halfway ?_).antisymm (le_rankOf (lt_value_upper (rank + 1) place).le))
    linarith

/-! ## The place of the first digit -/

/-- A positive number has one digit more than the power of ten below it. -/
theorem exists_length_toDigits {n : Nat} (pos : 0 < n) :
    ∃ k, (Nat.toDigits 10 n).length = k + 1 ∧ 10 ^ k ≤ n ∧ n < 10 ^ (k + 1) := by
  obtain ⟨k, length⟩ :=
    Nat.exists_eq_succ_of_ne_zero (Nat.length_toDigits_pos : 0 < (Nat.toDigits 10 n).length).ne'
  refine ⟨k, length, ?_, (Nat.length_toDigits_le_iff (by decide) k.succ_pos).mp length.le⟩
  cases k with
  | zero => exact pos
  | succ k =>
    rw [← Nat.not_lt, ← Nat.length_toDigits_le_iff (by decide) k.succ_pos, length]
    omega

theorem leadingExponentOf_spec {num den : Nat} (num_pos : 0 < num) (den_pos : 0 < den) :
    (10 : ℚ) ^ leadingExponentOf num den ≤ num / den ∧
      (num / den : ℚ) < 10 ^ (leadingExponentOf num den + 1) := by
  have den_cast : (0 : ℚ) < den := Nat.cast_pos.mpr den_pos
  unfold leadingExponentOf
  split
  · next le =>
    obtain ⟨k, length, lower, upper⟩ := exists_length_toDigits (Nat.div_pos le den_pos)
    rw [Nat.le_div_iff_mul_le den_pos] at lower
    rw [Nat.div_lt_iff_lt_mul den_pos] at upper
    have lead : ((Nat.toDigits 10 (num / den)).length : Int) - 1 = k := by omega
    rw [lead, le_div_iff₀ den_cast, div_lt_iff₀ den_cast]
    exact ⟨by exact_mod_cast lower, by exact_mod_cast upper⟩
  · next not_le =>
    have whole : 0 < (den - 1) / num := Nat.div_pos (by omega) num_pos
    obtain ⟨k, length, lower, upper⟩ := exists_length_toDigits whole
    rw [Nat.le_div_iff_mul_le num_pos] at lower
    rw [Nat.div_lt_iff_lt_mul num_pos] at upper
    have lead : -((Nat.toDigits 10 ((den - 1) / num)).length : Int) = -((k + 1 : Nat) : Int) := by
      rw [length]
    have next : -((k + 1 : Nat) : Int) + 1 = -(k : Int) := by omega
    rw [lead, next, zpow_neg, zpow_neg, zpow_natCast, zpow_natCast,
      inv_le_comm₀ (by positivity) (by positivity), inv_div, lt_inv_comm₀ (by positivity) (by positivity),
      inv_div, div_le_iff₀ (by positivity), lt_div_iff₀ (by positivity)]
    exact ⟨by exact_mod_cast (by omega : den ≤ 10 ^ (k + 1) * num),
      by exact_mod_cast (by omega : 10 ^ k * num < den)⟩

/-- The place of the first digit of a rank. -/
def leadOf (rank : Nat) : Int := leadingExponentOf (unitsOfRank rank) unitsPerOne

theorem ten_zpow_leadOf_le (rank : Nat) : (10 : ℚ) ^ leadOf (rank + 1) ≤ magnitude (rank + 1) :=
  (leadingExponentOf_spec (Nat.zero_lt_of_lt (strictMono_unitsOfRank rank.succ_pos))
    unitsPerOne_pos).1

theorem magnitude_lt_ten_zpow (rank : Nat) : magnitude (rank + 1) < 10 ^ (leadOf (rank + 1) + 1) :=
  (leadingExponentOf_spec (Nat.zero_lt_of_lt (strictMono_unitsOfRank rank.succ_pos))
    unitsPerOne_pos).2

/-! ## Zeros at the end -/

theorem value_stripZeros (fuel : Nat) (d : Decimal) : (stripZeros fuel d).value = d.value := by
  induction fuel generalizing d with
  | zero => rfl
  | succ fuel ih =>
    rw [stripZeros]
    split
    · next zero =>
      have whole : ((d.digits / 10 : Nat) : ℚ) * 10 = d.digits := by
        exact_mod_cast Nat.div_mul_cancel (Nat.dvd_of_mod_eq_zero zero.1)
      rw [ih, Decimal.value, Decimal.value, ← whole, zpow_add₀ (by norm_num), zpow_one]
      ring
    · rfl

theorem exponent_le_stripZeros (fuel : Nat) (d : Decimal) :
    d.exponent ≤ (stripZeros fuel d).exponent := by
  induction fuel generalizing d with
  | zero => exact le_refl _
  | succ fuel ih =>
    rw [stripZeros]
    split
    · have := ih ⟨d.digits / 10, d.exponent + 1⟩
      dsimp only at this
      omega
    · exact le_refl _

theorem IsNearest.stripZeros {d : Decimal} (h : IsNearest tie rank d) (fuel : Nat) :
    IsNearest tie rank (stripZeros fuel d) := by
  have value := value_stripZeros fuel d
  have coarser {other : Decimal} (on_grid : (Binary64.stripZeros fuel d).exponent ≤ other.exponent) :
      d.exponent ≤ other.exponent := (exponent_le_stripZeros fuel d).trans on_grid
  refine ⟨(rankOf_congr value).trans h.reads_back, ?_, ?_⟩
  · intro other on_grid reads
    rw [value]
    exact h.nearest other (coarser on_grid) reads
  · intro up other on_grid reads same
    rw [value] at same ⊢
    exact h.greater_of_tie up other (coarser on_grid) reads same

/-! ## The search -/

theorem exists_of_findSome?_range {α : Type} {f : Nat → Option α} {n : Nat} {a : α}
    (h : (List.range n).findSome? f = some a) : ∃ k, f k = some a ∧ ∀ j < k, f j = none := by
  induction n with
  | zero => cases h
  | succ n ih =>
    rw [List.range_succ, List.findSome?_append] at h
    cases before : (List.range n).findSome? f with
    | some b =>
      rw [before] at h
      exact ih (before.trans h)
    | none =>
      rw [before, Option.none_or, List.findSome?_singleton] at h
      exact ⟨n, h, fun j lt => List.findSome?_eq_none_iff.mp before j (List.mem_range.mpr lt)⟩

/-- The search takes the first count of digits at which a decimal reads back. -/
theorem exists_shortest_eq (tie : Tie) (rank : Nat) :
    ∃ (count : Nat) (d : Decimal),
      shortestAt? tie (rank + 1) (leadOf (rank + 1) - count) = some d ∧
      (∀ fewer : Nat, fewer < count →
        shortestAt? tie (rank + 1) (leadOf (rank + 1) - fewer) = none) ∧
      shortest tie (rank + 1) = stripZeros 17 d := by
  have last : ∃ d, shortestAt? tie (rank + 1) (leadOf (rank + 1) - (16 : Nat)) = some d := by
    refine exists_shortestAt? tie ?_
    rw [zpow_sub₀ (by norm_num), zpow_natCast, mul_div_cancel₀ _ (by norm_num)]
    exact ten_zpow_leadOf_le rank
  rw [shortest, if_neg rank.succ_ne_zero, ← leadOf]
  dsimp only
  cases found : (List.range 17).findSome? fun (count : Nat) =>
      shortestAt? tie (rank + 1) (leadOf (rank + 1) - count) with
  | none =>
    obtain ⟨d, at_last⟩ := last
    have nothing := List.findSome?_eq_none_iff.mp found 16 (by decide)
    rw [at_last] at nothing
    cases nothing
  | some d =>
    obtain ⟨count, here, earlier⟩ := exists_of_findSome?_range found
    exact ⟨count, d, here, earlier, rfl⟩

/-- **What is written for a rank reads back as it.** -/
theorem rankOf_shortest (tie : Tie) (rank : Nat) : rankOf (shortest tie rank) = rank := by
  cases rank with
  | zero => cases tie <;> decide +kernel
  | succ rank =>
    obtain ⟨count, d, found, -, eq⟩ := exists_shortest_eq tie rank
    rw [eq]
    exact ((isNearest_of_shortestAt? found).2.stripZeros 17).reads_back

/-! ## Nothing shorter reads back -/

/-- The shortest decimal of a rank: nothing on a coarser grid reads back, and on its own grid it is
the nearest that does. -/
structure IsShortest (tie : Tie) (rank : Nat) (d : Decimal) : Prop extends
    IsNearest tie rank d where
  coarsest : ∀ other : Decimal, rankOf other = rank → other.exponent ≤ d.exponent

theorem digits_pos_of_rankOf {d : Decimal} {rank : Nat} (reads : rankOf d = rank + 1) :
    0 < d.digits := by
  refine Nat.pos_of_ne_zero fun none => ?_
  have small : rankOf d ≤ 0 := rankOf_le (by rw [Decimal.value, none, magnitude_zero]; simp)
  omega

theorem ten_zpow_le_value {d : Decimal} {place : Int} (pos : 0 < d.digits)
    (le : place ≤ d.exponent) : 10 ^ place ≤ d.value := by
  calc (10 : ℚ) ^ place ≤ 10 ^ d.exponent := zpow_le_zpow_right₀ (by norm_num) le
    _ ≤ d.digits * 10 ^ d.exponent :=
        le_mul_of_one_le_left (ten_zpow_pos _).le (by exact_mod_cast pos)

/-- Decimals of one rank lie within one spacing. -/
theorem value_sub_value_le {d e : Decimal} {rank : Nat} (reads : rankOf d = rank + 1)
    (reads' : rankOf e = rank + 1) : e.value - d.value ≤ spacing (rank + 1) := by
  have above := value_le_halfway e
  rw [reads'] at above
  have below := halfway_le_value reads
  linarith [magnitude_succ rank, spacing_le_spacing (Nat.le_succ rank)]

/-- The ranks whose spacing is as large as the place of their first digit, one by one. -/
theorem leadOf_lt_exponent_shortest : ∀ tie ∈ [Tie.up, Tie.even], ∀ rank < 9,
    rankOf ⟨1, leadOf (rank + 1) + 1⟩ = rank + 1 →
      leadOf (rank + 1) < (shortest tie (rank + 1)).exponent := by
  decide +kernel

theorem lt_exponent_stripZeros (fuel : Nat) {d : Decimal} (ten : d.digits = 10) :
    d.exponent < (stripZeros (fuel + 1) d).exponent := by
  rw [stripZeros, if_pos (by omega)]
  exact Int.lt_of_add_one_le (exponent_le_stripZeros fuel ⟨d.digits / 10, d.exponent + 1⟩)

/-- Where one digit is enough, the next power of ten reads back only if it is what is written. -/
theorem coarsest_of_shortestAt?_leadOf {tie : Tie} {rank : Nat} {d other : Decimal}
    (found : shortestAt? tie (rank + 1) (leadOf (rank + 1)) = some d)
    (eq : shortest tie (rank + 1) = stripZeros 17 d) (reads : rankOf other = rank + 1) :
    other.exponent ≤ (shortest tie (rank + 1)).exponent := by
  obtain ⟨place, nearest⟩ := isNearest_of_shortestAt? found
  by_contra! coarser
  have above := exponent_le_stripZeros 17 d
  have ten_stripped := lt_exponent_stripZeros 16 (d := d)
  rw [← eq, place] at above ten_stripped
  have beyond := magnitude_lt_ten_zpow rank
  have few_ranks := leadOf_lt_exponent_shortest tie (by cases tie <;> decide) rank
  generalize leadOf (rank + 1) = lead at *
  have pos := ten_zpow_pos lead
  have digits := digits_pos_of_rankOf reads
  have ten (n : Int) : (10 : ℚ) ^ (n + 1) = 10 * 10 ^ n := by
    rw [zpow_add_one₀ (by norm_num), mul_comm]
  -- the power of ten above the rank lies between it and the coarser decimal
  have power : (⟨1, lead + 1⟩ : Decimal).value = 10 ^ (lead + 1) := by
    rw [Decimal.value, Nat.cast_one, one_mul]
  have power_reads : rankOf ⟨1, lead + 1⟩ = rank + 1 := by
    refine rankOf_eq_of_ge reads ?_ ?_ <;> rw [power]
    · exact ten_zpow_le_value digits (by omega)
    · exact beyond.le
  by_cases wide : lead < (shortest tie (rank + 1)).exponent
  · -- the coarser decimal would be ten times the power
    have far : (10 : ℚ) ^ (lead + 1 + 1) ≤ other.value := ten_zpow_le_value digits (by omega)
    have close := value_sub_value_le power_reads reads
    have narrow : (1 : Nat) * spacing (rank + 1) ≤ magnitude (rank + 1) :=
      mul_spacing_le (by decide) (by omega)
    rw [power] at close
    rw [ten (lead + 1)] at far
    rw [Nat.cast_one] at narrow
    linarith [ten_zpow_pos (lead + 1)]
  · -- the digit found is at most nine, so the spacing is as large as its place
    have le : d.value ≤ 10 ^ (lead + 1) := by
      have nearer := nearest.nearest ⟨1, lead + 1⟩ (by rw [place]; exact (Int.lt_succ lead).le)
        power_reads
      rw [power, abs_of_nonneg (a := 10 ^ (lead + 1) - magnitude (rank + 1)) (by linarith)] at nearer
      linarith [le_abs_self (d.value - magnitude (rank + 1))]
    have value : d.value = d.digits * 10 ^ lead := by rw [Decimal.value, place]
    have at_most_nine : (d.digits : ℚ) ≤ 9 := by
      rw [value, ten, mul_le_mul_iff_of_pos_right pos] at le
      have at_most_ten : d.digits ≤ 10 := by exact_mod_cast le
      have not_ten : d.digits ≠ 10 := fun eq_ten => wide (ten_stripped eq_ten)
      exact_mod_cast (by omega : d.digits ≤ 9)
    have close := value_sub_value_le nearest.reads_back power_reads
    rw [power, value, ten] at close
    have large := mul_le_mul_of_nonneg_right at_most_nine pos.le
    refine wide (few_ranks ?_ power_reads)
    by_contra! many
    have narrow : (10 : Nat) * spacing (rank + 1) ≤ magnitude (rank + 1) :=
      mul_spacing_le (by decide) (by omega)
    rw [ten] at beyond
    push_cast at narrow
    linarith

/-- **What is written for a rank is its shortest decimal.** -/
theorem isShortest_shortest (tie : Tie) (rank : Nat) :
    IsShortest tie (rank + 1) (shortest tie (rank + 1)) := by
  obtain ⟨count, d, found, earlier, eq⟩ := exists_shortest_eq tie rank
  obtain ⟨place, nearest⟩ := isNearest_of_shortestAt? found
  refine ⟨eq ▸ nearest.stripZeros 17, fun other reads => ?_⟩
  cases count with
  | zero =>
    rw [Nat.cast_zero, sub_zero] at found
    exact coarsest_of_shortestAt?_leadOf found eq reads
  | succ count =>
    by_contra! coarser
    have above := exponent_le_stripZeros 17 d
    rw [← eq, place] at above
    refine rankOf_ne_of_shortestAt?_eq_none (earlier count (Nat.lt_succ_self count)) ?_ reads
    push_cast at above
    omega

/-- No decimal of a rank has fewer digits than its shortest one. Between two of them of different
lengths lies a power of ten, and that would be on a coarser grid. -/
theorem IsShortest.length_le {d other : Decimal} (h : IsShortest tie (rank + 1) d)
    (reads : rankOf other = rank + 1) : d.digitChars.length ≤ other.digitChars.length := by
  obtain ⟨k, length, lower, -⟩ := exists_length_toDigits (digits_pos_of_rankOf h.reads_back)
  obtain ⟨j, length', -, upper⟩ := exists_length_toDigits (digits_pos_of_rankOf reads)
  rw [Decimal.digitChars, Decimal.digitChars, length, length']
  by_contra! shorter
  have exponent := h.coarsest other reads
  have power : (⟨1, d.exponent + k⟩ : Decimal).value = 10 ^ k * 10 ^ d.exponent := by
    rw [Decimal.value, Nat.cast_one, one_mul, zpow_add₀ (by norm_num), zpow_natCast, mul_comm]
  have below : other.value ≤ (⟨1, d.exponent + k⟩ : Decimal).value := by
    have digits : (other.digits : ℚ) ≤ 10 ^ k := by
      exact_mod_cast upper.le.trans (Nat.pow_le_pow_right (by decide) (by omega))
    rw [power]
    exact mul_le_mul digits (zpow_le_zpow_right₀ (by norm_num) exponent) (ten_zpow_pos _).le
      (by positivity)
  have above : (⟨1, d.exponent + k⟩ : Decimal).value ≤ d.value := by
    rw [power]
    exact mul_le_mul_of_nonneg_right (by exact_mod_cast lower) (ten_zpow_pos _).le
  have power_reads : rankOf ⟨1, d.exponent + k⟩ = rank + 1 := by
    have le := rankOf_mono above
    have ge := rankOf_mono below
    rw [h.reads_back] at le
    rw [reads] at ge
    exact le.antisymm ge
  have coarser := h.coarsest _ power_reads
  dsimp only at coarser
  omega

end SearchQL.Binary64
