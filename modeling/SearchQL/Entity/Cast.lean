import SearchQL.MultiValue
import SearchQL.Number.Decimal
import SearchQL.Value.Reader

/-!
# Casts — how an attribute of a row is decoded

The daemon returns attributes in shapes of its own: multi-value attributes and
documents as text, truth values as numbers. A cast says what an attribute is
meant to be. Null stays null under every cast.

Numbers are converted the generous way: a number that is no signed word is cut
down to a whole number and kept within the range of a word, truth values are one
and zero, and a text may hold either notation. Text that is no number is refused.
-/

namespace SearchQL

/-- What an attribute is decoded to. -/
inductive Cast where
  | multi
  | document
  | integer
  | float
  | boolean
  | string
deriving DecidableEq, Repr

namespace Cast

/-- The name of a cast. -/
def name : Cast → String
  | multi => "Mva"
  | document => "Json"
  | integer => "Integer"
  | float => "Float"
  | boolean => "Boolean"
  | string => "String"

/-- The cast that a text names, in any case. An unknown name is reported in lower case. -/
def ofName (text : String) : Except Error Cast :=
  match Text.lowerAscii (Text.trim text) with
  | "mva" => .ok multi
  | "json" | "array" | "object" => .ok document
  | "int" | "integer" => .ok integer
  | "float" | "double" | "real" => .ok float
  | "bool" | "boolean" => .ok boolean
  | "string" => .ok string
  | unknown => .error (.request (.unknownCast unknown))

/-- A double cut down to a whole number and kept within a word. NaN becomes zero. -/
def clampReal (x : Binary64) : Int64 :=
  match x with
  | .nan => 0
  | .infinite negative => if negative then Int64.minValue else Int64.maxValue
  | x => ((x.truncate?).map Number.clampInt64).getD 0

/-- A value as an integer. -/
def toInteger : Value → Except Error Int64
  | .number n =>
    match n.int64? with
    | some i => .ok i
    | none => .ok (clampReal n.toBinary64)
  | .bool b => .ok (if b then 1 else 0)
  | .text s =>
    let trimmed := Text.trim s
    match Number.readInt64? trimmed with
    | some i => .ok i
    | none =>
      match Binary64.read? trimmed with
      | some x => .ok (clampReal x)
      | none => .error (.decode trimmed .notInteger)
  | v => .error (.decode v.json .notInteger)

/-- A value as a double. -/
def toFloat : Value → Except Error Binary64
  | .number n => .ok n.toBinary64
  | .bool b => .ok (.ofInt (if b then 1 else 0))
  | .text s =>
    match Binary64.read? (Text.trim s) with
    | some x => .ok x
    | none => .error (.decode s .notFloat)
  | v => .error (.decode v.json .notFloat)

/-- The texts that stand for false. -/
def falseTexts : List String := ["", "0", "false"]

/-- A value as a truth value. -/
def toBoolean : Value → Bool
  | .null => false
  | .bool b => b
  | .number n => !n.toBinary64.isZero
  | .text s => !falseTexts.contains (Text.trim s)
  | .array items => !items.isEmpty
  | .object fields => !fields.isEmpty

/-- A text as the document it holds; any other value is its own document. -/
def toDocument : Value → Except Error Value
  | .text s =>
    match Value.read? s with
    | some v => .ok v
    | none => .error (.decode s .notDocument)
  | v => .ok v

/-- A value as text. -/
def toText : Value → Value
  | .text s => .text s
  | v => .text v.json

/-- An attribute decoded by a cast. -/
def decode (cast : Cast) : Value → Except Error Value
  | .null => .ok .null
  | v =>
    match cast with
    | multi => (MultiValue.ofValue v).map MultiValue.toValue
    | document => toDocument v
    | integer => (toInteger v).map Value.ofInt64
    | float => (toFloat v).map Value.ofBinary64
    | boolean => .ok (.bool (toBoolean v))
    | string => .ok (toText v)

end Cast

end SearchQL
