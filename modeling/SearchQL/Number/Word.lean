/-!
# Words — integers of sixty-four bits, read from decimal text

Attributes, ids and counts are integers of sixty-four bits, signed or unsigned.
A decimal text denotes one when it is an optional sign and at least one ASCII
digit, and when the number it writes fits the word: leading zeros are allowed,
digits of other scripts and blanks are not.

The number is read without bounds first and narrowed after, so "not a number"
and "does not fit" are two steps and neither can wrap.
-/

namespace SearchQL.Number

/-- The number that ASCII digits write; there must be at least one, and nothing else. -/
def natural? (cs : List Char) : Option Nat :=
  if cs.isEmpty || !cs.all Char.isDigit then none else some (Nat.ofDigitChars 10 cs 0)

/-- The number that an optional sign and ASCII digits write. -/
def integer? : List Char → Option Int
  | '-' :: digits => (natural? digits).map fun (n : Nat) => -(n : Int)
  | '+' :: digits => (natural? digits).map fun (n : Nat) => (n : Int)
  | digits => (natural? digits).map fun (n : Nat) => (n : Int)

/-- Whether a number fits a signed word: from -2^63 up to, but not including, 2^63. -/
def FitsSigned (n : Int) : Prop := -9223372036854775808 ≤ n ∧ n < 9223372036854775808

/-- Whether a number fits an unsigned word: from zero up to, but not including, 2^64. -/
def FitsUnsigned (n : Int) : Prop := 0 ≤ n ∧ n < 18446744073709551616

instance (n : Int) : Decidable (FitsSigned n) := inferInstanceAs (Decidable (_ ∧ _))

instance (n : Int) : Decidable (FitsUnsigned n) := inferInstanceAs (Decidable (_ ∧ _))

/-- A number as a signed word, if it fits. -/
def toInt64? (n : Int) : Option Int64 := if FitsSigned n then some (Int64.ofInt n) else none

/-- A number as an unsigned word, if it fits. -/
def toUInt64? (n : Int) : Option UInt64 := if FitsUnsigned n then some (UInt64.ofNat n.toNat) else none

/-- The signed word nearest to a number: a number out of range becomes the end it lies beyond. -/
def clampInt64 (n : Int) : Int64 :=
  if n < Int64.minValue.toInt then Int64.minValue
  else if Int64.maxValue.toInt < n then Int64.maxValue
  else Int64.ofInt n

/-- The signed word that a decimal text denotes. -/
def readInt64? (text : String) : Option Int64 := (integer? text.toList).bind toInt64?

/-- The unsigned word that a decimal text denotes. A minus sign is refused, before zero too. -/
def readUInt64? (text : String) : Option UInt64 :=
  match text.toList with
  | '-' :: _ => none
  | cs => (integer? cs).bind toUInt64?

/-- The decimal text of a number. -/
def decimal (n : Int) : String := toString n

/-! ## Reading what is written -/

theorem natural?_toDigits (n : Nat) : natural? (Nat.toDigits 10 n) = some n := by
  have digits : ∀ c ∈ Nat.toDigits 10 n, c.isDigit := fun c hc =>
    Nat.isDigit_of_mem_toDigits (by decide) (by decide) hc
  simp [natural?, Nat.toDigits_ne_nil, Nat.ofDigitChars_ten_toDigits, List.all_eq_true.2 digits]

theorem toList_decimal (n : Int) :
    (decimal n).toList = (if n < 0 then ['-'] else []) ++ Nat.toDigits 10 n.natAbs := by
  have h : decimal n = n.repr := rfl
  rw [h, Int.repr_eq_if]
  by_cases neg : n < 0
  · have not_le : ¬0 ≤ n := by omega
    have abs : (-n).toNat = n.natAbs := by omega
    simp [neg, not_le, abs, Nat.repr_eq_ofList_toDigits]
  · have le : 0 ≤ n := by omega
    have abs : n.toNat = n.natAbs := by omega
    simp [neg, le, abs, Nat.repr_eq_ofList_toDigits]

theorem integer?_of_isDigit {cs : List Char} (h : ∀ c ∈ cs, c.isDigit) :
    integer? cs = (natural? cs).map fun (n : Nat) => (n : Int) := by
  unfold integer?
  split
  · exact absurd (h '-' List.mem_cons_self) (by decide)
  · exact absurd (h '+' List.mem_cons_self) (by decide)
  · rfl

theorem integer?_decimal (n : Int) : integer? (decimal n).toList = some n := by
  have digits : ∀ c ∈ Nat.toDigits 10 n.natAbs, c.isDigit := fun c hc =>
    Nat.isDigit_of_mem_toDigits (by decide) (by decide) hc
  rw [toList_decimal]
  by_cases neg : n < 0
  · have signed : -(n.natAbs : Int) = n := by omega
    rw [if_pos neg]
    simp only [List.cons_append, List.nil_append, integer?, natural?_toDigits, Option.map_some]
    rw [signed]
  · have unsigned : (n.natAbs : Int) = n := by omega
    rw [if_neg neg, List.nil_append, integer?_of_isDigit digits, natural?_toDigits,
      Option.map_some, unsigned]

/-! ## Words and numbers -/

theorem fitsSigned_toInt (n : Int64) : FitsSigned n.toInt := ⟨n.le_toInt, n.toInt_lt⟩

@[simp]
theorem toInt64?_toInt (n : Int64) : toInt64? n.toInt = some n := by
  simp [toInt64?, fitsSigned_toInt]

theorem toInt_of_toInt64? {n : Int} {i : Int64} (h : toInt64? n = some i) : i.toInt = n := by
  unfold toInt64? at h
  split at h
  · next fits =>
    cases h
    exact Int64.toInt_ofInt_of_le fits.1 fits.2
  · exact absurd h (by simp)

theorem readInt64?_decimal (n : Int64) : readInt64? (decimal n.toInt) = some n := by
  simp [readInt64?, integer?_decimal]

end SearchQL.Number
