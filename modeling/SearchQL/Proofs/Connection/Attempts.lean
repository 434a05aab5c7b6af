import Mathlib.Data.ENat.Lattice
import SearchQL.Connection.Backoff

/-!
# Attempts — how often an operation is called, and the waits between

A trial ends with the first call that succeeds, or with the last that is allowed,
whichever comes first. Up to there calls and waits take turns, which is what
`Backoff.turns` makes of a list of waits, and the waits are those of the schedule
(`Backoff.delay?`), in order and from the first one on.

The schedule itself may end: each wait is computed from the one before, and there
need not be a next one. The program stops where it asks for it. `DefinedFor` says
that it never does, and a trial has an outcome exactly in that case
(`run_of_definedFor_or_not`).

The run lemma, `exists_attemptFrom_eq`, is by induction on how many attempts may
still follow. What carries it is that the wait handed on is the delay of the call
that is next.

The delays are a closed form only for the schedule a connection is opened with.
There every product is a length of time and exact (`next?_startup`), so the
doubling shows in whole milliseconds until the maximum stops it.
-/

namespace SearchQL

namespace Backoff

variable {α ε : Type} (b : Backoff)

/-! ## Calls and waits in turn -/

/-- The length of the wait that comes after so many others, as far as the schedule goes. -/
def delay? : Nat → Option Duration
  | 0 => some b.initial
  | i + 1 => (delay? i).bind b.next?

/-- Calls with the given waits between them, one between each two, numbered on from a first. -/
def turns (number : Nat) : List Duration → List Event
  | [] => [.call number]
  | wait :: rest => .call number :: .wait wait :: turns (number + 1) rest

theorem filterMap_number?_turns (number : Nat) (waits : List Duration) :
    (turns number waits).filterMap Event.number? = List.range' number (waits.length + 1) := by
  induction waits generalizing number with
  | nil => rfl
  | cons wait rest ih =>
    rw [turns, List.length_cons, List.range'_succ, ← ih]
    rfl

theorem filterMap_length?_turns (number : Nat) (waits : List Duration) :
    (turns number waits).filterMap Event.length? = waits := by
  induction waits generalizing number with
  | nil => rfl
  | cons wait rest ih => exact congrArg (wait :: ·) (ih (number + 1))

/-- Each call is made when the clock has been moved by the waits before it, and by nothing else. -/
theorem startsFrom_turns (time number : Nat) (waits : List Duration) :
    Trial.startsFrom time (turns number waits) =
      (List.range (waits.length + 1)).map fun i =>
        time + ((waits.take i).map Duration.ticks).sum := by
  induction waits generalizing time number with
  | nil => rfl
  | cons wait rest ih =>
    rw [turns, Trial.startsFrom, Trial.startsFrom, ih, List.length_cons,
      List.range_succ_eq_map (n := rest.length + 1), List.map_cons, List.map_map]
    congr 1
    apply List.map_congr_left
    intro i _
    rw [Function.comp_apply, List.take_succ_cons, List.map_cons, List.sum_cons, Nat.add_assoc]

/-! ## One call -/

variable {b} {operation : Nat → Except ε α} {call : Nat} {wait : Duration}

theorem attemptFrom_zero :
    attemptFrom b operation 0 call wait = ⟨[.call call], some (operation call)⟩ := by
  cases called : operation call with
  | ok v => simp [attemptFrom, called]
  | error e => simp [attemptFrom, called]

theorem attemptFrom_of_ok {more : Nat} {v : α} (called : operation call = .ok v) :
    attemptFrom b operation more call wait = ⟨[.call call], some (operation call)⟩ := by
  rw [attemptFrom.eq_def]
  simp [called]

theorem attemptFrom_of_error {more : Nat} {e : ε} {next : Duration}
    (called : operation call = .error e) (goesOn : b.next? wait = some next) :
    attemptFrom b operation (more + 1) call wait =
      ⟨.call call :: .wait wait :: (attemptFrom b operation more (call + 1) next).events,
        (attemptFrom b operation more (call + 1) next).outcome⟩ := by
  rw [attemptFrom, called]
  simp only [goesOn]

theorem attemptFrom_of_stop {more : Nat} {e : ε} (called : operation call = .error e)
    (stops : b.next? wait = none) :
    attemptFrom b operation (more + 1) call wait = ⟨[.call call, .wait wait], none⟩ := by
  rw [attemptFrom, called]
  simp only [stops]

/-! ## The calls that fail -/

/-- Whether all calls up to a given one fail. -/
def FailsTo (operation : Nat → Except ε α) (last : Nat) : Prop :=
  ∀ call, 1 ≤ call → call ≤ last → ∃ e, operation call = .error e

/-- The number of the first call that succeeds, infinite if there is none. -/
noncomputable def firstSuccess (operation : Nat → Except ε α) : ℕ∞ :=
  ⨅ call : {call : Nat // 1 ≤ call ∧ ∃ v, operation call = .ok v}, (call.val : ℕ∞)

namespace FailsTo

variable {last : Nat}

theorem succ {e : ε} (fails : FailsTo operation last)
    (failed : operation (last + 1) = .error e) : FailsTo operation (last + 1) := by
  intro call positive within
  obtain rfl | earlier := Nat.eq_or_lt_of_le within
  · exact ⟨e, failed⟩
  · exact fails call positive (Nat.le_of_lt_succ earlier)

theorem le_firstSuccess (fails : FailsTo operation last) :
    ((last + 1 : Nat) : ℕ∞) ≤ firstSuccess operation := by
  apply le_iInf
  rintro ⟨call, positive, v, succeeded⟩
  apply Nat.cast_le.mpr
  by_contra early
  obtain ⟨e, failed⟩ := fails call positive (Nat.le_of_lt_succ (Nat.lt_of_not_le early))
  rw [succeeded] at failed
  cases failed

theorem firstSuccess_eq {v : α} (fails : FailsTo operation last)
    (succeeded : operation (last + 1) = .ok v) :
    firstSuccess operation = (last + 1 : Nat) := by
  apply le_antisymm
  · exact iInf_le_of_le ⟨last + 1, Nat.succ_pos last, v, succeeded⟩ le_rfl
  · exact fails.le_firstSuccess

end FailsTo

/-! ## A whole trial -/

/-- Where a trial ends: calls before its last fail, and the last succeeds unless it is the last that
is allowed. -/
structure EndsAfter (limit : Nat) (operation : Nat → Except ε α) (retries : Nat) : Prop where
  fails : FailsTo operation retries
  within : retries + 1 ≤ limit
  stops : retries + 1 < limit → ∃ v, operation (retries + 1) = .ok v

/-- Where the program stops: a further call is allowed after one that fails, but the schedule goes
no further. -/
structure StopsAfter (b : Backoff) (limit : Nat) (operation : Nat → Except ε α) (retries : Nat) :
    Prop where
  fails : FailsTo operation (retries + 1)
  within : retries + 1 < limit
  undefined : b.delay? (retries + 1) = none

theorem map_some_singleton {before : Nat} {wait : Duration} (known : b.delay? before = some wait) :
    [wait].map some = (List.range' before 1).map b.delay? := by
  rw [List.range'_one, List.map_singleton, List.map_singleton, known]

/-- From a call on, calls and waits take turns until the trial ends or the program stops. The last
wait is made in the second case only. -/
theorem exists_attemptFrom_eq (b : Backoff) (more : Nat) {before : Nat} {wait : Duration}
    (known : b.delay? before = some wait) (fails : FailsTo operation before) :
    ∃ waits last,
      (waits ++ [last]).map some = (List.range' before (waits.length + 1)).map b.delay? ∧
      (EndsAfter (before + 1 + more) operation (before + waits.length) ∧
          attemptFrom b operation more (before + 1) wait =
            ⟨turns (before + 1) waits, some (operation (before + waits.length + 1))⟩ ∨
        b.StopsAfter (before + 1 + more) operation (before + waits.length) ∧
          attemptFrom b operation more (before + 1) wait =
            ⟨turns (before + 1) waits ++ [.wait last], none⟩) := by
  induction more generalizing before wait with
  | zero =>
    have ends : EndsAfter (before + 1) operation before :=
      ⟨fails, le_rfl, fun less => absurd less (Nat.lt_irrefl _)⟩
    exact ⟨[], wait, map_some_singleton known, .inl ⟨ends, attemptFrom_zero⟩⟩
  | succ more ih =>
    cases called : operation (before + 1) with
    | ok v =>
      have ends : EndsAfter (before + 1 + (more + 1)) operation before :=
        ⟨fails, Nat.le_add_right _ _, fun _ => ⟨v, called⟩⟩
      exact ⟨[], wait, map_some_singleton known, .inl ⟨ends, attemptFrom_of_ok called⟩⟩
    | error e =>
      have onward : b.delay? (before + 1) = b.next? wait := by
        rw [delay?, known, Option.bind_some]
      cases goesOn : b.next? wait with
      | none =>
        have stops : b.StopsAfter (before + 1 + (more + 1)) operation before :=
          ⟨fails.succ called, Nat.lt_add_of_pos_right (Nat.succ_pos more), onward.trans goesOn⟩
        exact ⟨[], wait, map_some_singleton known,
          .inr ⟨stops, attemptFrom_of_stop called goesOn⟩⟩
      | some next =>
        obtain ⟨waits, last, those, rest⟩ := ih (onward.trans goesOn) (fails.succ called)
        have shift : before + 1 + waits.length = before + (wait :: waits).length := by
          rw [List.length_cons]
          omega
        have limit : before + 1 + 1 + more = before + 1 + (more + 1) := by omega
        rw [shift, limit] at rest
        refine ⟨wait :: waits, last, ?_, ?_⟩
        · rw [List.cons_append, List.map_cons, those, List.length_cons,
            List.range'_succ (n := waits.length + 1), List.map_cons, known]
        · rw [attemptFrom_of_error called goesOn]
          rcases rest with ⟨ends, made⟩ | ⟨stops, made⟩
          · exact .inl ⟨ends, by rw [made, turns]⟩
          · exact .inr ⟨stops, by rw [made, turns]; rfl⟩

variable (b operation) in
theorem exists_run_eq :
    ∃ waits last, (waits ++ [last]).map some = (List.range (waits.length + 1)).map b.delay? ∧
      (EndsAfter (max 1 b.attempts) operation waits.length ∧
          b.run operation = ⟨turns 1 waits, some (operation (waits.length + 1))⟩ ∨
        b.StopsAfter (max 1 b.attempts) operation waits.length ∧
          b.run operation = ⟨turns 1 waits ++ [.wait last], none⟩) := by
  have fails : FailsTo operation 0 := by
    intro call positive within
    omega
  have limit : 0 + 1 + (b.attempts - 1) = max 1 b.attempts := by omega
  have whole := exists_attemptFrom_eq b (b.attempts - 1) rfl fails
  simp only [limit, Nat.zero_add, ← List.range_eq_range'] at whole
  exact whole

namespace EndsAfter

variable {limit retries : Nat}

/-- The last call is the first that succeeds, or the attempts are spent before there is one. -/
theorem first_or_spent (ends : EndsAfter limit operation retries) :
    (∃ v, operation (retries + 1) = .ok v) ∧ firstSuccess operation = (retries + 1 : Nat) ∨
      (∃ e, operation (retries + 1) = .error e) ∧ retries + 1 = limit ∧
        ((retries + 1 : Nat) : ℕ∞) < firstSuccess operation := by
  cases called : operation (retries + 1) with
  | ok v => exact .inl ⟨⟨v, rfl⟩, ends.fails.firstSuccess_eq called⟩
  | error e =>
    right
    refine ⟨⟨e, rfl⟩, ?_, ?_⟩
    · by_contra unspent
      obtain ⟨v, succeeded⟩ := ends.stops (lt_of_le_of_ne ends.within unspent)
      rw [called] at succeeded
      cases succeeded
    · have beyond := (ends.fails.succ called).le_firstSuccess
      exact lt_of_lt_of_le (Nat.cast_lt.mpr (Nat.lt_succ_self _)) beyond

theorem calls_eq_min (ends : EndsAfter limit operation retries) :
    ((retries + 1 : Nat) : ℕ∞) = min (firstSuccess operation) limit := by
  obtain ⟨-, first⟩ | ⟨-, spent, later⟩ := ends.first_or_spent
  · rw [first, min_eq_left (Nat.cast_le.mpr ends.within)]
  · rw [← spent, min_eq_right later.le]

theorem succeeds_iff (ends : EndsAfter limit operation retries) :
    (∃ v, operation (retries + 1) = .ok v) ↔ firstSuccess operation ≤ limit := by
  obtain ⟨succeeded, first⟩ | ⟨⟨e, failed⟩, spent, later⟩ := ends.first_or_spent
  · rw [first]
    exact ⟨fun _ => Nat.cast_le.mpr ends.within, fun _ => succeeded⟩
  · rw [← spent, failed]
    constructor
    · rintro ⟨v, succeeded⟩
      cases succeeded
    · intro met
      exact absurd later (not_lt.mpr met)

end EndsAfter

/-! ## Where the schedule ends -/

/-- Whether the schedule goes on as far as it is asked to. After a call that fails and is not the
last that is allowed there is a wait, and the one after it is computed then. -/
def DefinedFor (b : Backoff) (operation : Nat → Except ε α) : Prop :=
  ∀ i, i + 1 < max 1 b.attempts → FailsTo operation (i + 1) → (b.delay? (i + 1)).isSome

theorem StopsAfter.not_definedFor {retries : Nat}
    (stops : b.StopsAfter (max 1 b.attempts) operation retries) : ¬b.DefinedFor operation := by
  intro defined
  have goesOn := defined retries stops.within stops.fails
  rw [stops.undefined] at goesOn
  cases goesOn

theorem EndsAfter.definedFor {retries : Nat}
    (ends : EndsAfter (max 1 b.attempts) operation retries)
    (known : ∀ i ≤ retries, (b.delay? i).isSome) : b.DefinedFor operation := by
  intro i within fails
  refine known (i + 1) ?_
  -- a later retry would follow the call that ends the trial
  by_contra later
  obtain ⟨v, succeeded⟩ := ends.stops (by omega)
  obtain ⟨e, failed⟩ := fails (retries + 1) (Nat.succ_pos retries) (by omega)
  rw [succeeded] at failed
  cases failed

/-- What a trial comes to for which the schedule is defined, and where any other stops. -/
theorem run_of_definedFor_or_not (b : Backoff) (operation : Nat → Except ε α) :
    b.DefinedFor operation ∧ (∃ waits, EndsAfter (max 1 b.attempts) operation waits.length ∧
        waits.map some = (List.range waits.length).map b.delay? ∧
        b.run operation = ⟨turns 1 waits, some (operation (waits.length + 1))⟩) ∨
      ¬b.DefinedFor operation ∧
        ∃ waits last, b.StopsAfter (max 1 b.attempts) operation waits.length ∧
          (waits ++ [last]).map some = (List.range (waits.length + 1)).map b.delay? ∧
          b.run operation = ⟨turns 1 waits ++ [.wait last], none⟩ := by
  obtain ⟨waits, last, those, ⟨ends, made⟩ | ⟨stops, made⟩⟩ := exists_run_eq b operation
  · have known : ∀ i ≤ waits.length, (b.delay? i).isSome := by
      intro i within
      have mem : b.delay? i ∈ (waits ++ [last]).map some :=
        those ▸ List.mem_map_of_mem (List.mem_range.mpr (Nat.lt_succ_of_le within))
      obtain ⟨wait, -, eq⟩ := List.mem_map.mp mem
      rw [← eq, Option.isSome_some]
    rw [List.range_succ, List.map_append, List.map_append] at those
    exact .inl ⟨ends.definedFor known, waits, ends, (List.append_inj' those rfl).1, made⟩
  · exact .inr ⟨stops.not_definedFor, waits, last, stops, those, made⟩

/-! ## The schedule of a connection -/

/-- The doubling stops at the maximum, and the next wait exists each time. -/
theorem next?_startup (attempts i : Nat) :
    (startup attempts).next? (.ofMilliseconds (min (200 * 2 ^ i) 2000)) =
      some (.ofMilliseconds (min (200 * 2 ^ (i + 1)) 2000)) := by
  have below : ∀ i < 5, (startup 1).next? (.ofMilliseconds (min (200 * 2 ^ i) 2000)) =
      some (.ofMilliseconds (min (200 * 2 ^ (i + 1)) 2000)) := by decide +kernel
  -- the number of attempts is no part of how long a wait is
  change (startup 1).next? _ = _
  by_cases small : i < 5
  · exact below i small
  · have large : 2 ^ 4 ≤ 2 ^ i := Nat.pow_le_pow_right (by decide) (by omega)
    have capped : min (200 * 2 ^ i) 2000 = min (200 * 2 ^ 4) 2000 := by omega
    have cappedNext : min (200 * 2 ^ (i + 1)) 2000 = min (200 * 2 ^ (4 + 1)) 2000 := by
      rw [pow_succ]
      omega
    rw [capped, cappedNext]
    exact below 4 (by decide)

theorem delay?_startup (attempts i : Nat) :
    (startup attempts).delay? i = some (.ofMilliseconds (min (200 * 2 ^ i) 2000)) := by
  induction i with
  | zero => rfl
  | succ i ih => rw [delay?, ih, Option.bind_some, next?_startup]

theorem definedFor_startup (attempts : Nat) (operation : Nat → Except ε α) :
    (startup attempts).DefinedFor operation := by
  intro i _ _
  rw [delay?_startup, Option.isSome_some]

/-- An operation is called until it first succeeds or the attempts are spent, none at all counting
as one, and what comes of it is what came of the last call. Between two calls there is one wait, and
there is none before the first call or after the last. The waits are those of the schedule, and on
the clock they are all that passes. Where a connection is opened they double from two hundred
milliseconds up to two seconds. All this is provided that the schedule goes on as far as it is
asked; where it does not, the program stops without an outcome, right after a wait that a further
call should have followed. -/
theorem run_keeps_schedule (b : Backoff) (operation : Nat → Except ε α) :
    let trial := b.run operation
    (trial.outcome = none ↔ ¬b.DefinedFor operation) ∧
    (b.DefinedFor operation →
      (trial.calls : ℕ∞) = min (firstSuccess operation) (max 1 b.attempts : Nat) ∧
      trial.outcome = some (operation trial.calls) ∧
      ((∃ v, trial.outcome = some (.ok v)) ↔ firstSuccess operation ≤ (max 1 b.attempts : Nat)) ∧
      trial.events = turns 1 trial.waits ∧
      trial.waits.map some = (List.range (trial.calls - 1)).map b.delay? ∧
      trial.starts = (List.range trial.calls).map fun i =>
        ((trial.waits.take i).map Duration.ticks).sum) ∧
    (¬b.DefinedFor operation →
      ∃ waits last, b.StopsAfter (max 1 b.attempts) operation waits.length ∧
        trial.events = turns 1 waits ++ [.wait last] ∧
        (waits ++ [last]).map some = (List.range trial.calls).map b.delay?) ∧
    ∀ attempts, (∀ operation : Nat → Except ε α, (startup attempts).DefinedFor operation) ∧
      ∀ i, (startup attempts).delay? i = some (.ofMilliseconds (min (200 * 2 ^ i) 2000)) := by
  intro trial
  have opening (attempts : Nat) :=
    And.intro (fun operation : Nat → Except ε α => definedFor_startup attempts operation)
      (delay?_startup attempts)
  rcases run_of_definedFor_or_not b operation with
    ⟨defined, waits, ends, those, made⟩ | ⟨undefined, waits, last, stops, those, made⟩
  · have trial_eq : trial = ⟨turns 1 waits, some (operation (waits.length + 1))⟩ := made
    have calls : trial.calls = waits.length + 1 := by
      rw [Trial.calls, trial_eq, filterMap_number?_turns, List.length_range']
    have waited : trial.waits = waits := by
      rw [Trial.waits, trial_eq, filterMap_length?_turns]
    have starts := startsFrom_turns 0 1 waits
    simp only [Nat.zero_add] at starts
    refine ⟨?_, fun _ => ?_, fun undefined => absurd defined undefined, opening⟩
    · rw [trial_eq]
      exact iff_of_false (Option.some_ne_none _) fun undefined => undefined defined
    · rw [calls, waited, Nat.add_sub_cancel, Trial.starts, trial_eq]
      refine ⟨ends.calls_eq_min, rfl, ?_, rfl, those, starts⟩
      simpa only [Option.some.injEq] using ends.succeeds_iff
  · have trial_eq : trial = ⟨turns 1 waits ++ [.wait last], none⟩ := made
    have calls : trial.calls = waits.length + 1 := by
      rw [Trial.calls, trial_eq, List.filterMap_append, filterMap_number?_turns]
      simp [Event.number?]
    refine ⟨?_, fun defined => absurd defined undefined, fun _ => ⟨waits, last, stops, ?_, ?_⟩,
      opening⟩
    · rw [trial_eq]
      exact iff_of_true rfl undefined
    · rw [trial_eq]
    · rw [calls, those]

/-- A third call that succeeds comes after two waits. -/
theorem run_keeps_schedule_third :
    let operation : Nat → Except Nat Nat := fun call => if call = 3 then .ok call else .error call
    let trial := (startup 5).run operation
    (startup 5).DefinedFor operation ∧ trial.outcome = some (operation trial.calls) ∧
      trial.calls = 3 ∧ trial.events = turns 1 [.ofMilliseconds 200, .ofMilliseconds 400] ∧
      trial.starts = [0, 200, 600] := by
  intro operation trial
  obtain ⟨-, kept, -, opening⟩ := run_keeps_schedule (startup 5) operation
  have defined := (opening 5).1 operation
  obtain ⟨-, outcome, -, events, -, -⟩ := kept defined
  exact ⟨defined, outcome, by decide +kernel, events.trans (by decide +kernel), by decide +kernel⟩

/-- With a negative factor the program stops after one call and one wait, though the second call
would succeed. A wait of more than thirty years is cut short. -/
theorem run_stops_and_cuts :
    let operation : Nat → Except Nat Nat := fun call => if call = 2 then .ok call else .error call
    let stopped := { startup 3 with factor := .ofInt (-1) }.run operation
    let cut := { startup 5 with initial := .ofMilliseconds 100000000000000 }.run operation
    firstSuccess operation = 2 ∧
      stopped.events = [.call 1, .wait (.ofMilliseconds 200)] ∧ stopped.outcome = none ∧
      cut.waits = [.ofMilliseconds 100000000000000] ∧ cut.starts = [0, 946080000000] := by
  intro operation stopped cut
  have fails : FailsTo operation 1 := by
    intro call positive within
    exact ⟨call, if_neg (by omega)⟩
  have first : firstSuccess operation = (1 + 1 : Nat) := fails.firstSuccess_eq (v := 2) rfl
  exact ⟨first, by decide +kernel, by decide +kernel, by decide +kernel, by decide +kernel⟩

end Backoff

end SearchQL
