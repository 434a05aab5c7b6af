import SearchQL.Error
import SearchQL.Number.Binary64

/-!
# Backoff — waiting longer between attempts

Opening a connection is attempted a bounded number of times. Between two attempts
there is one wait: the first lasts the initial delay, and each later one the wait
before it times a factor, but not more than the maximum. The initial delay itself
is not held to the maximum.

The factor is a double, so the product is one too: the wait is turned into
seconds, multiplied, and rounded to whole nanoseconds, a tie to the even one. A
product may be no length of time: negative, infinite, not a number, or too long to
count. There is then no next wait (`Backoff.next?`). It is computed as soon as a
wait is over, before the call that follows, and where there is none the program
stops at that point, with calls left to make and without an outcome.

A trial is what was done, in order: calls of the operation and waits. The schedule
says how long each wait is asked to be (`Trial.waits`); the clock, on which the
calls are timed (`Trial.starts`), counts whole milliseconds and cuts a wait short
after thirty years. The next wait follows from the one that was asked for, not
from the one that was cut.
-/

namespace SearchQL

/-- A length of time. -/
structure Duration where
  nanoseconds : Nat
deriving DecidableEq, Repr

namespace Duration

/-- Nanoseconds in a second. -/
def perSecond : Nat := 1000000000

/-- Nanoseconds in a millisecond. -/
def perMillisecond : Nat := 1000000

/-- A number of milliseconds. -/
def ofMilliseconds (n : Nat) : Duration := ⟨n * perMillisecond⟩

/-- The number of whole milliseconds. -/
def milliseconds (d : Duration) : Nat := d.nanoseconds / perMillisecond

/-- The most milliseconds that a wait lasts on the clock: thirty years of 365 days. -/
def longestWait : Nat := 946080000000

/-- The number of milliseconds that a wait of the given length lasts on the clock: the least number
after which the length has passed, but never more than the longest wait. -/
def ticks (d : Duration) : Nat :=
  min ((d.nanoseconds + (perMillisecond - 1)) / perMillisecond) longestWait

/-- A length of time in seconds: the whole seconds and the fraction, each rounded, then added. -/
def seconds (d : Duration) : Binary64 :=
  (Binary64.ofInt (d.nanoseconds / perSecond : Nat)).add
    ((Binary64.ofInt (d.nanoseconds % perSecond : Nat)).div (.ofInt perSecond))

/-- The length of time that a number of seconds is, to the nearest nanosecond. Seconds are counted
in an unsigned word. -/
def ofSeconds? : Binary64 → Option Duration
  | .finite negative rank =>
    let units := Binary64.unitsOfRank rank
    if (negative && units != 0) || decide (UInt64.size * Binary64.unitsPerOne ≤ units) then none
    else some ⟨Binary64.roundToEven (units * perSecond) Binary64.unitsPerOne⟩
  | _ => none

/-- Lengths of time are compared by their nanoseconds. -/
instance : LE Duration := ⟨fun a b => a.nanoseconds ≤ b.nanoseconds⟩

instance (a b : Duration) : Decidable (a ≤ b) :=
  inferInstanceAs (Decidable (a.nanoseconds ≤ b.nanoseconds))

/-- The shorter of two lengths of time. -/
def shorter (a b : Duration) : Duration := ⟨min a.nanoseconds b.nanoseconds⟩

theorem shorter_le_right (a b : Duration) : a.shorter b ≤ b :=
  Nat.min_le_right a.nanoseconds b.nanoseconds

end Duration

/-- How often and how slowly to try again. -/
structure Backoff where
  initial : Duration
  maximum : Duration
  factor : Binary64
  /-- Attempts in all. None at all is the same as one. -/
  attempts : Nat
deriving DecidableEq

namespace Backoff

/-- The schedule for opening a connection: two hundred milliseconds at first, doubling up to two
seconds. -/
def startup (attempts : Nat) : Backoff where
  initial := .ofMilliseconds 200
  maximum := .ofMilliseconds 2000
  factor := .ofInt 2
  attempts := attempts

/-- The schedule where none is given. -/
def standard : Backoff := startup 5

/-- The wait after a given one, where the product is a length of time. -/
def next? (b : Backoff) (wait : Duration) : Option Duration :=
  (Duration.ofSeconds? (b.factor.mul wait.seconds)).map (·.shorter b.maximum)

/-- One thing done in the course of a trial. -/
inductive Event where
  /-- The operation is called, for the time given, counted from one. -/
  | call (number : Nat)
  | wait (length : Duration)
deriving DecidableEq, Repr

/-- The number of a call. -/
def Event.number? : Event → Option Nat
  | call number => some number
  | wait _ => none

/-- The length of a wait. -/
def Event.length? : Event → Option Duration
  | call _ => none
  | wait length => some length

/-- What came of a series of attempts: what was done, in order, and the last outcome. There is none
where the program stopped because the next wait is no length of time. -/
structure Trial (α : Type) (ε : Type := Error) where
  events : List Event
  outcome : Option (Except ε α)

/-- The attempts from a given one on; `more` is how many may follow it. -/
def attemptFrom {α ε : Type} (b : Backoff) (operation : Nat → Except ε α) (more call : Nat)
    (wait : Duration) : Trial α ε :=
  match operation call with
  | .ok v => ⟨[.call call], some (.ok v)⟩
  | .error e =>
    match more with
    | 0 => ⟨[.call call], some (.error e)⟩
    | more + 1 =>
      match b.next? wait with
      | none => ⟨[.call call, .wait wait], none⟩
      | some next =>
        let rest := attemptFrom b operation more (call + 1) next
        ⟨.call call :: .wait wait :: rest.events, rest.outcome⟩

/-- Attempts an operation until it succeeds or the attempts are spent. The operation is told the
number of the call, counted from one. -/
def run {α ε : Type} (b : Backoff) (operation : Nat → Except ε α) : Trial α ε :=
  attemptFrom b operation (b.attempts - 1) 1 b.initial

namespace Trial

variable {α ε : Type}

/-- How many times the operation was called. -/
def calls (t : Trial α ε) : Nat := (t.events.filterMap Event.number?).length

/-- How long each wait was asked to be. -/
def waits (t : Trial α ε) : List Duration := t.events.filterMap Event.length?

/-- The millisecond at which each call is made, on a clock that only the waits advance, when it
shows the given time at first. -/
def startsFrom (time : Nat) : List Event → List Nat
  | [] => []
  | .call _ :: rest => time :: startsFrom time rest
  | .wait length :: rest => startsFrom (time + length.ticks) rest

/-- The millisecond at which each call was made. -/
def starts (t : Trial α ε) : List Nat := startsFrom 0 t.events

end Trial

end Backoff

end SearchQL
