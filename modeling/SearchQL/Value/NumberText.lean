import SearchQL.Value.Basic
import SearchQL.Number.Decimal

/-!
# Numbers in documents — their written and their read form

Written: an integer as its decimal digits. A double as the fewest digits that
read back, of two equally near decimals the even one; in plain notation with at
least one place after the point when its first digit stands between the places
-5 and 15, and otherwise with one digit before the point and an exponent that
carries a sign only when negative or a plus when positive.

Read: the grammar of RFC 8259. A number without fraction and exponent is an
integer if it fits a word, unsigned without a minus sign and signed with one;
minus zero is a double. Every other number is a double, and it is *not* the
double nearest to its decimal: the leading digits that fit an unsigned word are
rounded to a double, which is then multiplied or divided by one power of ten and
rounded again. A number too large for a finite double is refused.
-/

namespace SearchQL.Number

/-! ## Writing -/

/-- The least and the greatest exponent of the first digit that is written without an exponent. -/
def plainExponents : Int × Int := (-5, 15)

/-- The exponent part of a number: its sign is always written. -/
def exponentChars (e : Int) : List Char :=
  'e' :: (if e < 0 then '-' else '+') :: Nat.toDigits 10 e.natAbs

/-- A decimal with one digit before the point, the point only before a further digit. -/
def scientificChars (d : Decimal) : List Char :=
  match d.digitChars with
  | [] => []
  | first :: [] => first :: exponentChars d.leadingExponent
  | first :: more => first :: '.' :: more ++ exponentChars d.leadingExponent

/-- A finite double in a document. -/
def realChars (rank : Nat) : List Char :=
  let d := Binary64.shortest .even rank
  if plainExponents.1 ≤ d.leadingExponent ∧ d.leadingExponent ≤ plainExponents.2 then
    let digits := Binary64.plainDigits d
    if d.exponent < 0 then digits else digits ++ ['.', '0']
  else scientificChars d

/-- A number in a document. NaN and the infinities are no numbers of a document. -/
def chars : Number → List Char
  | .integer n => (decimal n).toList
  | .real (.finite negative rank) => Binary64.signChars negative ++ realChars rank
  | .real _ => ['n', 'u', 'l', 'l']

/-! ## Reading -/

/-- Reads digits onto a number for as long as the result fits an unsigned word. The rest of the
digits is returned too. -/
def absorbDigits (n : Nat) : List Char → Nat × List Char
  | [] => (n, [])
  | d :: rest =>
    let next := 10 * n + (d.toNat - '0'.toNat)
    if next < UInt64.size then absorbDigits next rest else (n, d :: rest)

/-- The double nearest to a power of ten. -/
def powerOfTen (k : Nat) : Binary64 := .ofRatio false (Nat.pow 10 k) 1

/-- The greatest power of ten that is a finite double. -/
def greatestPower : Nat := 308

/-- Divides by the greatest power of ten, as often as told or until nothing is left. -/
def lowerBy : Nat → Binary64 → Binary64
  | 0, x => x
  | steps + 1, x => if x.isZero then x else lowerBy steps (x.div (powerOfTen greatestPower))

/-- Multiplies or divides by a power of ten, rounding at each step. One step does it unless the
number is to be made smaller by more than the greatest power. -/
def scale? (x : Binary64) (exponent : Int) : Option Binary64 :=
  let k := exponent.natAbs
  if x.isZero then some x
  else if 0 ≤ exponent then
    if k ≤ greatestPower then
      let scaled := x.mul (powerOfTen k)
      if scaled.isFinite then some scaled else none
    else none
  else
    let steps := (k - 1) / greatestPower
    some ((lowerBy steps x).div (powerOfTen (k - greatestPower * steps)))

/-- The double that the parts of a number denote: its digits before and after the point and its
exponent. -/
def real? (negative : Bool) (whole fraction : List Char) (exponent : Int) : Option Number :=
  let (n, dropped) := absorbDigits 0 whole
  let (m, unread) := absorbDigits n fraction
  let places : Int := (fraction.length - unread.length : Nat)
  (scale? (.ofInt m) (exponent + dropped.length - places)).map fun x =>
    .real (if negative then x.negate else x)

/-- The integer that digits alone denote, where it fits. -/
def whole? (negative : Bool) (digits : List Char) : Option Number :=
  let n := Nat.ofDigitChars 10 digits 0
  if negative then
    if 0 < n ∧ FitsSigned (-n) then some (.integer (-n)) else real? true digits [] 0
  else if FitsUnsigned n then some (.integer n) else real? false digits [] 0

/-- Whether digits may stand before the point: there are some, and no zero begins a longer run. -/
def isWholePart : List Char → Bool
  | [] => false
  | '0' :: _ :: _ => false
  | _ => true

/-- The fraction and the exponent that follow the digits before the point, if they are well formed:
each part that is there has a digit. -/
def readTail? (cs : List Char) : Option (List Char × Int) :=
  let exponent? : List Char → Option Int
    | [] => some 0
    | mark :: e => if Binary64.isExponentMark mark then integer? e else none
  match cs with
  | '.' :: rest =>
    let fraction := rest.takeWhile Char.isDigit
    if fraction.isEmpty then none
    else (exponent? (rest.dropWhile Char.isDigit)).map fun e => (fraction, e)
  | rest => (exponent? rest).map fun e => ([], e)

/-- The number that a text without its minus sign denotes. -/
def readUnsigned? (negative : Bool) (cs : List Char) : Option Number :=
  let digits := cs.takeWhile Char.isDigit
  if isWholePart digits then
    match cs.dropWhile Char.isDigit with
    | [] => whole? negative digits
    | tail => (readTail? tail).bind fun (fraction, e) => real? negative digits fraction e
  else none

/-- The number that a word of a document denotes. -/
def read? : List Char → Option Number
  | '-' :: cs => readUnsigned? true cs
  | cs => readUnsigned? false cs

end SearchQL.Number
