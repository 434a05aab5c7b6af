import SearchQL.Number.Word
import SearchQL.Number.Binary64

/-!
# Decimal text of doubles — the fewest digits that read back

Reading: an optional sign, digits with at most one point among them, at least one
digit, and an optional exponent with at least one digit; or one of the words
`inf`, `infinity` and `nan` in any case. The value is rounded once, from the
exact decimal.

Writing: among the decimals that round to a double, the ones with the fewest
digits, and of those the nearest to it. Two can be equally near, so a format
names its `Tie`. `shortest` is the search by definition: it tries one digit, then
two, and so on, and at each count looks at the two decimals of that many digits
around the value. Seventeen digits always suffice.
-/

namespace SearchQL

/-- A decimal: `digits * 10 ^ exponent`. -/
structure Decimal where
  digits : Nat
  exponent : Int
deriving DecidableEq, Repr

namespace Decimal

/-- The digits as characters. -/
def digitChars (d : Decimal) : List Char := Nat.toDigits 10 d.digits

/-- The exponent of the first digit. -/
def leadingExponent (d : Decimal) : Int := d.exponent + (d.digitChars.length - 1 : Nat)

/-- The same decimal as a quotient of naturals. -/
def ratio (d : Decimal) : Nat × Nat :=
  (d.digits * Nat.pow 10 d.exponent.toNat, Nat.pow 10 (-d.exponent).toNat)

end Decimal

namespace Binary64

/-- The double nearest to a decimal. No finite double has its first digit above the place 308 or
below the place -324, so decimals far outside are settled without writing them out. -/
def ofDecimal (negative : Bool) (d : Decimal) : Binary64 :=
  if d.digits = 0 then zero negative
  else if 400 < d.leadingExponent then .infinite negative
  else if d.leadingExponent < -400 then zero negative
  else ofRatio negative d.ratio.1 d.ratio.2

/-! ## Reading -/

/-- The decimal that digits with at most one point write, before its exponent is applied. -/
def readMantissa? (cs : List Char) : Option Decimal :=
  let whole := cs.takeWhile Char.isDigit
  match cs.dropWhile Char.isDigit with
  | [] => (Number.natural? whole).map fun n => ⟨n, 0⟩
  | '.' :: fraction =>
    if fraction.all Char.isDigit then
      (Number.natural? (whole ++ fraction)).map fun n => ⟨n, -fraction.length⟩
    else none
  | _ => none

/-- Whether a character opens an exponent. -/
def isExponentMark (c : Char) : Bool := c == 'e' || c == 'E'

/-- The decimal that a text without a sign writes, exponent included. -/
def readDecimal? (cs : List Char) : Option Decimal :=
  match readMantissa? (cs.takeWhile (!isExponentMark ·)), cs.dropWhile (!isExponentMark ·) with
  | none, _ => none
  | some d, [] => some d
  | some d, _ :: exponent =>
    (Number.integer? exponent).map fun e => { d with exponent := d.exponent + e }

/-- The double that a text without a sign denotes. -/
def readMagnitude? (negative : Bool) (cs : List Char) : Option Binary64 :=
  match (cs.map Char.toLower : List Char) with
  | ['i', 'n', 'f'] => some (.infinite negative)
  | ['i', 'n', 'f', 'i', 'n', 'i', 't', 'y'] => some (.infinite negative)
  | ['n', 'a', 'n'] => some .nan
  | _ => (readDecimal? cs).map (ofDecimal negative)

/-- The double that a text denotes. -/
def read? (text : String) : Option Binary64 :=
  match text.toList with
  | '-' :: cs => readMagnitude? true cs
  | '+' :: cs => readMagnitude? false cs
  | cs => readMagnitude? false cs

/-! ## Writing -/

/-- Which of two equally near decimals is written: the one above, or the one with an even last
digit. -/
inductive Tie where
  | up
  | even
deriving DecidableEq, Repr

/-- The exponent of the first digit of a positive quotient. -/
def leadingExponentOf (num den : Nat) : Int :=
  if den ≤ num then ((Nat.toDigits 10 (num / den)).length : Int) - 1
  else -(Nat.toDigits 10 ((den - 1) / num)).length

/-- Whether a decimal reads back as the magnitude of a rank. -/
def readsBack (rank : Nat) (d : Decimal) : Bool := rankOfRatio d.ratio.1 d.ratio.2 == rank

/-- Where a positive quotient stands on the grid `10 ^ place`: the quotient divided by the grid, as the
part below, the remainder and the divisor. -/
structure GridCut where
  below : Nat
  rest : Nat
  step : Nat

/-- A positive quotient divided by the grid `10 ^ place`. -/
def gridCut (num den : Nat) (place : Int) : GridCut :=
  let n := num * Nat.pow 10 (-place).toNat
  let d := den * Nat.pow 10 place.toNat
  ⟨n / d, n % d, d⟩

/-- Whether the decimal below lies nearer, or as near and is the one to write. -/
def GridCut.prefersLow (tie : Tie) (cut : GridCut) : Bool :=
  if 2 * cut.rest = cut.step then
    match tie with
    | .up => false
    | .even => cut.below % 2 == 0
  else decide (2 * cut.rest < cut.step)

/-- The one of two decimals that reads back, and the preferred one if both do. -/
def pick? (reads : Decimal → Bool) (preferLow : Bool) (low high : Decimal) : Option Decimal :=
  match reads low, reads high with
  | true, true => some (if preferLow then low else high)
  | true, false => some low
  | false, true => some high
  | false, false => none

/-- The decimal on the grid `10 ^ place` that reads back as a rank and lies nearest to it. -/
def shortestAt? (tie : Tie) (rank : Nat) (place : Int) : Option Decimal :=
  let cut := gridCut (unitsOfRank rank) unitsPerOne place
  pick? (readsBack rank) (cut.prefersLow tie) ⟨cut.below, place⟩ ⟨cut.below + 1, place⟩

/-- A decimal without the zeros at the end of its digits. -/
def stripZeros (fuel : Nat) (d : Decimal) : Decimal :=
  match fuel with
  | 0 => d
  | fuel + 1 =>
    if d.digits % 10 = 0 ∧ d.digits ≠ 0 then stripZeros fuel ⟨d.digits / 10, d.exponent + 1⟩ else d

/-- The decimal with the fewest digits that reads back as a rank, the nearest of those. One of the
counts up to seventeen always does; the exact decimal stands for the case that none did. -/
def shortest (tie : Tie) (rank : Nat) : Decimal :=
  if rank = 0 then ⟨0, 0⟩
  else
    let lead := leadingExponentOf (unitsOfRank rank) unitsPerOne
    match (List.range 17).findSome? fun (count : Nat) => shortestAt? tie rank (lead - count) with
    | some d => stripZeros 17 d
    | none => ⟨unitsOfRank rank * Nat.pow 5 1074, -1074⟩

/-- A decimal in plain notation: never an exponent, and a point only before a digit that counts. -/
def plainDigits (d : Decimal) : List Char :=
  let digits := d.digitChars
  if 0 ≤ d.exponent then digits ++ List.replicate d.exponent.toNat '0'
  else
    let places := (-d.exponent).toNat
    if places < digits.length then
      digits.take (digits.length - places) ++ '.' :: digits.drop (digits.length - places)
    else '0' :: '.' :: List.replicate (places - digits.length) '0' ++ digits

/-- The sign of a number as text. -/
def signChars (negative : Bool) : List Char := if negative then ['-'] else []

/-- A double in plain notation, of two equally near decimals the one above. -/
def plain : Binary64 → String
  | .nan => "NaN"
  | .infinite negative => String.ofList (signChars negative ++ ['i', 'n', 'f'])
  | .finite negative rank =>
    String.ofList (signChars negative ++ plainDigits (shortest .up rank))

end Binary64

end SearchQL
