import SearchQL.Column.Type
import SearchQL.Error

/-!
# Column kinds — what a change set can declare, by name

A schema builder knows more kinds of column than the daemon has types. Each kind
that can be kept resolves to one portable type and through it to one stored type;
the wide set is the only kind whose stored type the portable one does not decide.

`ColumnKind.ofName` resolves a method name such as `dateTimeTz`. Names of columns
that the daemon cannot keep are known too, so that the error can say which
feature is missing; any other name is no column type at all.
-/

namespace SearchQL

/-- A kind of column that can be declared. -/
inductive ColumnKind where
  | string
  | char
  | text
  | tinyInteger
  | smallInteger
  | mediumInteger
  | integer
  | unsignedInteger
  | bigInteger
  | unsignedBigInteger
  | float
  | double
  | decimal
  | unsignedDecimal
  | boolean
  | set
  | set64
  | json
  | jsonb
  | timestamp
  | timestampTz
  | dateTime
  | dateTimeTz
deriving DecidableEq, Repr

namespace ColumnKind

/-- Every kind. -/
def all : List ColumnKind :=
  [string, char, text, tinyInteger, smallInteger, mediumInteger, integer, unsignedInteger,
   bigInteger, unsignedBigInteger, float, double, decimal, unsignedDecimal, boolean, set, set64,
   json, jsonb, timestamp, timestampTz, dateTime, dateTimeTz]

/-- The name of a kind. -/
def name : ColumnKind → String
  | string => "String"
  | char => "Char"
  | text => "Text"
  | tinyInteger => "TinyInteger"
  | smallInteger => "SmallInteger"
  | mediumInteger => "MediumInteger"
  | integer => "Integer"
  | unsignedInteger => "UnsignedInteger"
  | bigInteger => "BigInteger"
  | unsignedBigInteger => "UnsignedBigInteger"
  | float => "Float"
  | double => "Double"
  | decimal => "Decimal"
  | unsignedDecimal => "UnsignedDecimal"
  | boolean => "Boolean"
  | set => "Set"
  | set64 => "Set64"
  | json => "Json"
  | jsonb => "Jsonb"
  | timestamp => "Timestamp"
  | timestampTz => "TimestampTz"
  | dateTime => "DateTime"
  | dateTimeTz => "DateTimeTz"

/-- The portable type of a kind. -/
def portable : ColumnKind → PortableType
  | string | char | text => .string
  | tinyInteger | smallInteger | mediumInteger | integer | unsignedInteger => .integer
  | bigInteger | unsignedBigInteger => .bigInteger
  | float | double => .float
  | decimal | unsignedDecimal => .decimal
  | boolean => .boolean
  | set | set64 => .set
  | json | jsonb => .json
  | timestamp | timestampTz | dateTime | dateTimeTz => .timestamp

/-- The stored type of a kind. -/
def wire : ColumnKind → WireType
  | set64 => .multi64
  | kind => kind.portable.wire

/-- The kind that a method name declares. -/
def ofSupportedName? : String → Option ColumnKind
  | "string" => some string
  | "char" => some char
  | "text" | "tinyText" | "mediumText" | "longText" => some text
  | "tinyInteger" | "unsignedTinyInteger" => some tinyInteger
  | "smallInteger" | "unsignedSmallInteger" => some smallInteger
  | "mediumInteger" | "unsignedMediumInteger" => some mediumInteger
  | "integer" => some integer
  | "unsignedInteger" => some unsignedInteger
  | "bigInteger" => some bigInteger
  | "unsignedBigInteger" => some unsignedBigInteger
  | "float" => some float
  | "double" => some double
  | "decimal" => some decimal
  | "unsignedDecimal" => some unsignedDecimal
  | "boolean" => some boolean
  | "set" => some set
  | "set64" => some set64
  | "json" => some json
  | "jsonb" => some jsonb
  | "timestamp" => some timestamp
  | "timestampTz" => some timestampTz
  | "dateTime" => some dateTime
  | "dateTimeTz" => some dateTimeTz
  | _ => none

/-- The feature that a method name needs and the daemon lacks. -/
def missingFeature? : String → Option Feature
  | "increments" | "tinyIncrements" | "smallIncrements" | "mediumIncrements" | "bigIncrements"
  | "id" => some .autoIncrement
  | "enum" => some .enumColumn
  | "date" => some .dateColumn
  | "time" | "timeTz" => some .timeColumn
  | "year" => some .yearColumn
  | "binary" => some .binaryColumn
  | "uuid" | "foreignUuid" => some .uuidColumn
  | "ipAddress" => some .ipAddressColumn
  | "macAddress" => some .macAddressColumn
  | "geometry" | "point" | "lineString" | "polygon" | "geometryCollection" | "multiPoint"
  | "multiLineString" | "multiPolygon" => some .geometryColumn
  | "morphs" | "nullableMorphs" | "uuidMorphs" | "nullableUuidMorphs" => some .polymorphicColumn
  | "rememberToken" => some .rememberToken
  | "foreignId" | "foreignIdFor" => some .foreignKey
  | _ => none

/-- The kind that a method name declares, or why it declares none. -/
def ofName (method : String) : Except Error ColumnKind :=
  match ofSupportedName? method with
  | some kind => .ok kind
  | none =>
    match missingFeature? method with
    | some feature => .error (.unsupported feature)
    | none => .error (.request (.unknownColumnType method))

end ColumnKind

end SearchQL
