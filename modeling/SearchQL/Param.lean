import SearchQL.MultiValue
import SearchQL.Number.Decimal

/-!
# Parameters — the values that statements carry

A statement is compiled with question marks and an ordered list of parameters.
The daemon prepares no statements, so before one is sent each parameter is
written out as a literal of the query language.

`Param.ofValue` says what a caller's value becomes: an integer that is no signed
word is bound as the nearest double, an array as a multi-value tuple, an object
as its document text. `Param.literal` says how a parameter is written.
-/

namespace SearchQL

/-- A bound value of a statement. -/
inductive Param where
  | null
  | integer (n : Int64)
  | real (x : Binary64)
  | text (s : String)
  | bool (b : Bool)
  | multi (values : List Int64)
deriving DecidableEq

namespace Param

/-- The parameter that a value is bound as. -/
def ofValue : Value → Except Error Param
  | .null => .ok .null
  | .bool b => .ok (.bool b)
  | .number n =>
    match n.int64? with
    | some i => .ok (.integer i)
    | none => .ok (.real n.toBinary64)
  | .text s => .ok (.text s)
  | .array items => (MultiValue.ofValue (.array items)).map .multi
  | .object fields => .ok (.text (Value.object fields).json)

/-- The parameters of a row, in the order of its columns. -/
def ofRow (row : Row) : Except Error (List (String × Param)) :=
  row.mapM fun (column, value) => (ofValue value).map fun p => (column, p)

/-! ## Literals -/

/-- How a character is written inside a quoted literal. -/
def quoteChar : Char → List Char
  | '\\' => ['\\', '\\']
  | '\x27' => ['\\', '\x27']
  | '\n' => ['\\', 'n']
  | '\r' => ['\\', 'r']
  | '\x00' => ['\\', '0']
  | c => [c]

/-- A text as a quoted literal. -/
def quote (text : String) : String :=
  String.ofList ('\x27' :: text.toList.flatMap quoteChar ++ ['\x27'])

/-- A parameter as a literal of the query language. What is no number there becomes NULL. -/
def literal : Param → String
  | null => "NULL"
  | integer n => Number.decimal n.toInt
  | real x => if x.isFinite then x.plain else "NULL"
  | text s => quote s
  | bool b => if b then "1" else "0"
  | multi values => MultiValue.literal values

end Param

end SearchQL
