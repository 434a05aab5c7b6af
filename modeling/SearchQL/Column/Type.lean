import SearchQL.Text.Blank
import SearchQL.Value.Basic

/-!
# Column types — the daemon's nine and the portable nine

The daemon stores nine types of column and names each by a keyword. Callers use a
portable vocabulary, which is coarser on one side and finer on the other: both
widths of multi-value attribute are a `set`, and a `decimal`, which the daemon
cannot store, is kept as text. Declaring a portable type and reading it back
gives the same type except for `decimal`, which reads back as `string`.

A description of an index may name types that this list does not know. Such a
name is kept as it is (`ColumnType.native`) rather than refused.
-/

namespace SearchQL

/-- A type that the daemon stores. -/
inductive WireType where
  | string
  | integer
  | bigInt
  | float
  | bool
  | multi
  | multi64
  | json
  | timestamp
deriving DecidableEq, Repr

/-- A type of the callers' vocabulary. -/
inductive PortableType where
  | string
  | integer
  | bigInteger
  | float
  | decimal
  | boolean
  | set
  | json
  | timestamp
deriving DecidableEq, Repr

namespace WireType

/-- Every type that the daemon stores. -/
def all : List WireType :=
  [string, integer, bigInt, float, bool, multi, multi64, json, timestamp]

/-- The keyword that declares a type. -/
def keyword : WireType → String
  | string => "STRING"
  | integer => "INTEGER"
  | bigInt => "BIGINT"
  | float => "FLOAT"
  | bool => "BOOL"
  | multi => "MULTI"
  | multi64 => "MULTI64"
  | json => "JSON"
  | timestamp => "TIMESTAMP"

/-- The name of a type as a value of a document. -/
def name : WireType → String
  | string => "String"
  | integer => "Integer"
  | bigInt => "BigInt"
  | float => "Float"
  | bool => "Bool"
  | multi => "Multi"
  | multi64 => "Multi64"
  | json => "Json"
  | timestamp => "Timestamp"

/-- The type that a keyword or a name in a description stands for, in any case. -/
def ofKeyword? (text : String) : Option WireType :=
  match Text.lowerAscii (Text.trim text) with
  | "string" => some string
  | "integer" | "int" | "uint" => some integer
  | "bigint" => some bigInt
  | "float" => some float
  | "bool" => some bool
  | "multi" | "mva" => some multi
  | "multi64" | "mva64" => some multi64
  | "json" => some json
  | "timestamp" => some timestamp
  | _ => none

/-- The portable type that a stored type reads back as. -/
def portable : WireType → PortableType
  | string => .string
  | integer => .integer
  | bigInt => .bigInteger
  | float => .float
  | bool => .boolean
  | multi | multi64 => .set
  | json => .json
  | timestamp => .timestamp

/-- Whether a type holds several integers. -/
def isMulti : WireType → Bool
  | multi | multi64 => true
  | _ => false

end WireType

namespace PortableType

/-- Every portable type. -/
def all : List PortableType :=
  [string, integer, bigInteger, float, decimal, boolean, set, json, timestamp]

/-- The name of a portable type. -/
def name : PortableType → String
  | string => "string"
  | integer => "integer"
  | bigInteger => "bigInteger"
  | float => "float"
  | decimal => "decimal"
  | boolean => "boolean"
  | set => "set"
  | json => "json"
  | timestamp => "timestamp"

/-- The type that the daemon stores for a portable type. A set is stored in its narrow width. -/
def wire : PortableType → WireType
  | string | decimal => .string
  | integer => .integer
  | bigInteger => .bigInt
  | float => .float
  | boolean => .bool
  | set => .multi
  | json => .json
  | timestamp => .timestamp

end PortableType

/-- A type in a description: a portable one, or a name that is not known here. -/
inductive ColumnType where
  | portable (type : PortableType)
  | native (name : String)
deriving DecidableEq, Repr

namespace ColumnType

/-- The type that a name in a description stands for. -/
def ofName (name : String) : ColumnType :=
  match WireType.ofKeyword? name with
  | some type => .portable type.portable
  | none => .native name

/-- A type as text. -/
def display : ColumnType → String
  | portable type => type.name
  | native name => name

end ColumnType

/-! ## Types as values of a document

A type is written as the text of its name. It is also read from an object whose
only field has that name and the value null. -/

/-- The name that a value spells. -/
def Value.spelledName? : Value → Option String
  | .text s => some s
  | .object [(name, .null)] => some name
  | _ => none

/-- The stored type that a value spells. -/
def WireType.ofValue? (v : Value) : Option WireType :=
  v.spelledName?.bind fun n => WireType.all.find? (·.name = n)

/-- The portable type that a value spells. -/
def PortableType.ofValue? (v : Value) : Option PortableType :=
  v.spelledName?.bind fun n => PortableType.all.find? (·.name = n)

end SearchQL
