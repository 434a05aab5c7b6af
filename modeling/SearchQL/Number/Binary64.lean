/-!
# Double-precision numbers — exact values and one rounding

The daemon and its callers exchange double-precision numbers. They are modelled
here by their exact values, so that what a number is, and to which number a
result is rounded, are statements about natural numbers.

A finite double is a sign and a **rank**, its place in the ascending list of
finite magnitudes: rank 0 is zero, rank 1 the least magnitude above it, and there
are `finiteRanks` of them. Every pair of a sign and a rank is a double and no two
pairs are the same double, so equality of values is equality of data (the two
zeros are distinct data).

Every finite magnitude is a multiple of the least one. That multiple is the
number of **units** of the rank, and one is `unitsPerOne` units. With it:

- the exact value of a finite double is `units / unitsPerOne`;
- the exact result of a sum, product or quotient is a quotient of naturals;
- `rankOfRatio` rounds a quotient of naturals to the nearest rank, a tie to the
  even one, and is the only rounding there is.

## What this does not hold

NaN is one value: no operation here looks at its sign or payload. Other rounding
directions and the status flags of the arithmetic are left out.
-/

namespace SearchQL

/-- How many ranks a binade has: 2^52. -/
abbrev Binary64.binade : Nat := 4503599627370496

/-- How many finite magnitudes there are: 2047 binades. -/
def Binary64.finiteRanks : Nat := 2047 * binade

/-- A double-precision number. -/
inductive Binary64 where
  | nan
  | infinite (negative : Bool)
  | finite (negative : Bool) (rank : Fin Binary64.finiteRanks)
deriving DecidableEq, Repr

namespace Binary64

/-- How many units make one. -/
def unitsPerOne : Nat := 1 <<< 1074

/-- How many units a rank is worth. The first two binades advance by one unit, and each later one
by twice the step of the one before. -/
def unitsOfRank (rank : Nat) : Nat :=
  let shift := rank / binade - 1
  (rank - shift * binade) <<< shift

/-- A quotient rounded to the nearest natural number, a tie to the even one. -/
def roundToEven (num den : Nat) : Nat :=
  let low := num / den
  let twice := 2 * (num % den)
  if twice < den then low
  else if den < twice then low + 1
  else if low % 2 = 0 then low else low + 1

/-- The rank nearest to a quotient of naturals. The step of its binade is `1 <<< shift` units;
rounding up past the last rank of a binade lands on the first one of the next by itself. -/
def rankOfRatio (num den : Nat) : Nat :=
  let units := num * unitsPerOne
  let shift := (units / den).log2 - 52
  shift * binade + roundToEven units (den <<< shift)

/-- The double nearest to a quotient, infinite beyond the last finite rank. -/
def ofRatio (negative : Bool) (num den : Nat) : Binary64 :=
  let rank := rankOfRatio num den
  if h : rank < finiteRanks then .finite negative ⟨rank, h⟩ else .infinite negative

theorem unitsPerOne_pos : 0 < unitsPerOne :=
  Nat.lt_of_lt_of_eq (Nat.two_pow_pos 1074) (Nat.one_shiftLeft 1074).symm

/-- Zero with a sign. -/
def zero (negative : Bool) : Binary64 := .finite negative ⟨0, by decide⟩

/-- The double nearest to an integer. -/
def ofInt (n : Int) : Binary64 := ofRatio (decide (n < 0)) n.natAbs 1

def isFinite : Binary64 → Bool
  | .finite _ _ => true
  | _ => false

def isZero : Binary64 → Bool
  | .finite _ rank => rank.val == 0
  | _ => false

def negate : Binary64 → Binary64
  | .nan => .nan
  | .infinite negative => .infinite !negative
  | .finite negative rank => .finite (!negative) rank

/-! ## Arithmetic -/

/-- The signed number of units of a finite double. -/
def signedUnits (negative : Bool) (rank : Nat) : Int :=
  if negative then -(unitsOfRank rank : Int) else unitsOfRank rank

/-- The sum, rounded once. A sum of nothing is negative only if both terms are. -/
def add : Binary64 → Binary64 → Binary64
  | .nan, _ => .nan
  | _, .nan => .nan
  | .infinite s, .infinite t => if s = t then .infinite s else .nan
  | .infinite s, .finite _ _ => .infinite s
  | .finite _ _, .infinite t => .infinite t
  | .finite s a, .finite t b =>
    let sum := signedUnits s a + signedUnits t b
    if sum = 0 then zero (s && t) else ofRatio (decide (sum < 0)) sum.natAbs unitsPerOne

/-- The product, rounded once. -/
def mul : Binary64 → Binary64 → Binary64
  | .nan, _ => .nan
  | _, .nan => .nan
  | .infinite s, .infinite t => .infinite (s ^^ t)
  | .infinite s, .finite t b => if b.val = 0 then .nan else .infinite (s ^^ t)
  | .finite s a, .infinite t => if a.val = 0 then .nan else .infinite (s ^^ t)
  | .finite s a, .finite t b =>
    ofRatio (s ^^ t) (unitsOfRank a * unitsOfRank b) (unitsPerOne * unitsPerOne)

/-- The quotient, rounded once. -/
def div : Binary64 → Binary64 → Binary64
  | .nan, _ => .nan
  | _, .nan => .nan
  | .infinite _, .infinite _ => .nan
  | .infinite s, .finite t _ => .infinite (s ^^ t)
  | .finite s _, .infinite t => zero (s ^^ t)
  | .finite s a, .finite t b =>
    if b.val = 0 then (if a.val = 0 then .nan else .infinite (s ^^ t))
    else ofRatio (s ^^ t) (unitsOfRank a) (unitsOfRank b)

/-! ## Integers among the doubles -/

/-- The integer that a finite double is cut down to, toward zero. -/
def truncate? : Binary64 → Option Int
  | .finite negative rank =>
    let whole : Nat := unitsOfRank rank / unitsPerOne
    some (if negative then -(whole : Int) else whole)
  | _ => none

/-- The integer that a double is, if it is one. -/
def toInt? : Binary64 → Option Int
  | .finite negative rank =>
    if unitsOfRank rank % unitsPerOne = 0 then truncate? (.finite negative rank) else none
  | _ => none

end Binary64

end SearchQL
