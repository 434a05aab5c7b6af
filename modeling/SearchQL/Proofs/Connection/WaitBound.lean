import SearchQL.Proofs.Connection.Attempts

/-!
# Bounded waits — which waits the maximum of a schedule holds

A schedule names a maximum for its waits and takes it where it computes a wait
from the one before. The first wait is not computed: it is the initial delay as
it stands, longer than the maximum or not.

A step keeps the bound whatever wait it starts from (`next?_le_maximum`), so from
the second wait on every wait of a trial has it. The first one is then all that
decides whether the whole trial has it, and a trial may come without a wait at
all. `withinMaximum_run_iff` says which trials those are, also of those that stop
because the schedule ends.
-/

namespace SearchQL

namespace Backoff

variable {α ε : Type}

/-! ## One wait from another -/

variable {b : Backoff}

/-- A wait that follows another has the bound, whatever the other was. -/
theorem next?_le_maximum {wait next : Duration} (follows : b.next? wait = some next) :
    next ≤ b.maximum := by
  obtain ⟨product, -, rfl⟩ := Option.map_eq_some_iff.mp follows
  exact product.shorter_le_right b.maximum

theorem delay?_succ_le_maximum {i : Nat} {wait : Duration} (known : b.delay? (i + 1) = some wait) :
    wait ≤ b.maximum := by
  obtain ⟨before, -, follows⟩ := Option.bind_eq_some_iff.mp known
  exact next?_le_maximum follows

/-! ## The waits of a trial -/

/-- Whether no wait of a trial is longer than the maximum of the schedule. -/
def WithinMaximum (b : Backoff) (t : Trial α ε) : Prop := ∀ wait ∈ t.waits, wait ≤ b.maximum

instance (b : Backoff) (t : Trial α ε) : Decidable (b.WithinMaximum t) :=
  inferInstanceAs (Decidable (∀ wait ∈ t.waits, wait ≤ b.maximum))

namespace EndsAfter

variable {operation : Nat → Except ε α} {retries : Nat}

/-- A trial has no retry exactly if none is allowed or the first call succeeds. -/
theorem eq_zero_iff (ends : EndsAfter (max 1 b.attempts) operation retries) :
    retries = 0 ↔ b.attempts ≤ 1 ∨ ∃ v, operation 1 = .ok v := by
  have within := ends.within
  constructor
  · rintro rfl
    by_cases single : b.attempts ≤ 1
    · exact .inl single
    · exact .inr (ends.stops (by omega))
  · rintro (single | ⟨v, succeeded⟩)
    · omega
    · by_contra retried
      obtain ⟨e, failed⟩ := ends.fails 1 le_rfl (Nat.one_le_iff_ne_zero.mpr retried)
      rw [succeeded] at failed
      cases failed

end EndsAfter

theorem waits_turns (waits : List Duration) (outcome : Option (Except ε α)) :
    (Trial.mk (turns 1 waits) outcome).waits = waits :=
  filterMap_length?_turns 1 waits

theorem waits_turns_concat (waits : List Duration) (last : Duration)
    (outcome : Option (Except ε α)) :
    (Trial.mk (turns 1 waits ++ [.wait last]) outcome).waits = waits ++ [last] := by
  rw [Trial.waits, List.filterMap_append, filterMap_length?_turns]
  rfl

/-- The waits of a trial are the first of the schedule. There is none exactly if no second call is
allowed or the first one succeeds. -/
theorem waits_run (b : Backoff) (operation : Nat → Except ε α) :
    (b.run operation).waits.map some =
        (List.range (b.run operation).waits.length).map b.delay? ∧
      ((b.run operation).waits = [] ↔ b.attempts ≤ 1 ∨ ∃ v, operation 1 = .ok v) := by
  obtain ⟨waits, last, those, ⟨ends, made⟩ | ⟨stops, made⟩⟩ := exists_run_eq b operation
  · rw [made, waits_turns]
    rw [List.range_succ, List.map_append, List.map_append] at those
    refine ⟨(List.append_inj' those rfl).1, ?_⟩
    rw [← List.length_eq_zero_iff]
    exact ends.eq_zero_iff
  · rw [made, waits_turns_concat, List.length_append, List.length_singleton]
    refine ⟨those, iff_of_false (List.append_ne_nil_of_right_ne_nil _ (List.cons_ne_nil _ _)) ?_⟩
    rintro (single | ⟨v, succeeded⟩)
    · have within := stops.within
      omega
    · obtain ⟨e, failed⟩ := stops.fails 1 le_rfl (Nat.succ_pos _)
      rw [succeeded] at failed
      cases failed

/-- No wait of a trial is longer than the maximum exactly if the initial delay is not, or there is no
wait: no second attempt is allowed, or the first one succeeds. Only the first wait can be longer.
It is the initial delay, and all that come after it keep to the maximum. -/
theorem withinMaximum_run_iff (b : Backoff) (operation : Nat → Except ε α) :
    (b.WithinMaximum (b.run operation) ↔
      b.initial ≤ b.maximum ∨ b.attempts ≤ 1 ∨ ∃ v, operation 1 = .ok v) ∧
    (∀ wait ∈ (b.run operation).waits.head?, wait = b.initial) ∧
    ∀ wait ∈ (b.run operation).waits.tail, wait ≤ b.maximum := by
  obtain ⟨those, none_iff⟩ := waits_run b operation
  rw [WithinMaximum, ← none_iff]
  cases made : (b.run operation).waits with
  | nil => simp
  | cons first rest =>
    rw [made, List.length_cons, List.range_succ_eq_map, List.map_cons, List.map_cons, List.map_map,
      List.cons.injEq] at those
    obtain ⟨first_eq, rest_eq⟩ := those
    have initial : first = b.initial := Option.some.inj first_eq
    have others : ∀ wait ∈ rest, wait ≤ b.maximum := by
      intro wait mem
      obtain ⟨i, -, known⟩ := List.mem_map.mp (rest_eq ▸ List.mem_map_of_mem mem)
      exact delay?_succ_le_maximum known
    rw [List.forall_mem_cons, initial, or_iff_left (List.cons_ne_nil _ rest)]
    refine ⟨and_iff_left others, ?_, others⟩
    rintro wait ⟨⟩
    rfl

/-- An initial delay of five seconds is waited for in full where the maximum is two seconds. -/
theorem not_withinMaximum_initial :
    let b := { startup 3 with initial := .ofMilliseconds 5000 }
    let trial := b.run fun call => (.error call : Except Nat Unit)
    trial.waits = [.ofMilliseconds 5000, b.maximum] ∧ trial.starts = [0, 5000, 7000] ∧
      ¬ b.WithinMaximum trial := by
  decide +kernel

end Backoff

end SearchQL
