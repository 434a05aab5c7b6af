import SearchQL.Error
import SearchQL.Text.Blank
import SearchQL.Value.Writer

/-!
# Multi-value attributes — lists of integers and their texts

A multi-value attribute holds a list of signed 64-bit integers. It reaches the
library in several shapes: as an array, as text such as `(1,2,3)` or `1, 2, 3`,
as one number, or as null for no integers at all. It leaves as one shape, the
tuple literal.

Decoding keeps order and duplicates. Filter arguments are prepared differently:
arrays inside arrays are flattened, nulls and blank texts dropped, and of equal
integers only the first stays, because a filter asks about membership.

What counts as one integer is decided once, in `integer`: a number that is a
signed word, or a double that is whole and strictly between the powers -2^63 and
2^63, or the decimal text of a signed word with blanks around it.
-/

namespace SearchQL.MultiValue

/-- The bound that a whole double must stay strictly within, on both sides of zero: 2^63. -/
def doubleBound : Nat := 9223372036854775808

/-- The integer that a value denotes. -/
def integer : Value → Except Error Int64
  | .number n =>
    match n.int64? with
    | some i => .ok i
    | none =>
      match n.toBinary64.toInt? with
      | some i =>
        if i.natAbs < doubleBound then .ok (Int64.ofInt i)
        else .error (.decode (String.ofList n.chars) .notWord)
      | none => .error (.decode (String.ofList n.chars) .notWord)
  | .text s =>
    match Number.readInt64? (Text.trim s) with
    | some i => .ok i
    | none => .error (.decode s .notInteger)
  | v => .error (.decode v.json .notInteger)

/-! ## Text -/

/-- The characters of a text that carry its integers: all but parentheses and blanks. -/
def significant (cs : List Char) : List Char :=
  cs.filter fun c => c != '(' && c != ')' && !Text.isBlank c

/-- The integer of one token of a text. -/
def token (raw : String) (cs : List Char) : Except Error Int64 :=
  match (Number.integer? cs).bind Number.toInt64? with
  | some i => .ok i
  | none => .error (.decode raw (.badToken (String.ofList cs)))

/-- The integers of a text, one between each two commas. A text of nothing but blanks and
parentheses holds none. -/
def ofText (raw : String) : Except Error (List Int64) :=
  match significant raw.toList with
  | [] => .ok []
  | cs => (cs.splitOn ',').mapM (token raw)

/-- The integers as a tuple literal. -/
def literal (values : List Int64) : String :=
  "(" ++ ",".intercalate (values.map fun i => Number.decimal i.toInt) ++ ")"

/-! ## Values -/

/-- The integers of an attribute. -/
def ofValue : Value → Except Error (List Int64)
  | .null => .ok []
  | .array items => items.mapM integer
  | .text s => ofText s
  | .number n => (integer (.number n)).map fun i => [i]
  | v => .error (.decode v.json .notMultiValue)

/-- Integers as a value. -/
def toValue (values : List Int64) : Value := .array (values.map Value.ofInt64)

mutual

/-- Adds the integers of a filter argument to those found before it. -/
def addArgument (found : List Int64) : Value → Except Error (List Int64)
  | .null => .ok found
  | .array items => addArguments found items
  | .text s =>
    if Text.isBlankText s then .ok found
    else (integer (.text s)).map fun i => if i ∈ found then found else found ++ [i]
  | v => (integer v).map fun i => if i ∈ found then found else found ++ [i]

/-- Adds the integers of several filter arguments, in order. -/
def addArguments (found : List Int64) : List Value → Except Error (List Int64)
  | [] => .ok found
  | v :: rest => (addArgument found v).bind fun found => addArguments found rest

end

/-- The integers of filter arguments, each once, in the order of their first occurrence. -/
def ofArguments (values : List Value) : Except Error (List Int64) := addArguments [] values

end SearchQL.MultiValue
