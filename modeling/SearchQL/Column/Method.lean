import SearchQL.Column.Kind

/-!
# Column methods — the declarations of a schema builder

A schema builder has one method per kind of column. This module lists them with
the names they are known by and says what each declares: a kind, or nothing,
because the daemon lacks the feature. `ColumnKind.ofName` answers the same
question for a name alone and is a table of its own.
-/

namespace SearchQL

/-- A method that declares one column. -/
inductive ColumnMethod where
  | supported (kind : ColumnKind)
  | increments
  | tinyIncrements
  | smallIncrements
  | mediumIncrements
  | integerIncrements
  | bigIncrements
  | id
  | enumeration
  | date
  | time
  | timeTz
  | year
  | binary
  | uuid
  | foreignUuid
  | ipAddress
  | macAddress
  | geometry
  | point
  | lineString
  | polygon
  | geometryCollection
  | multiPoint
  | multiLineString
  | multiPolygon
  | morphs
  | nullableMorphs
  | uuidMorphs
  | nullableUuidMorphs
  | rememberToken
  | foreignId
deriving DecidableEq, Repr

namespace ColumnMethod

/-- The methods that declare no column. -/
def unsupported : List ColumnMethod :=
  [increments, tinyIncrements, smallIncrements, mediumIncrements, integerIncrements, bigIncrements,
   id, enumeration, date, time, timeTz, year, binary, uuid, foreignUuid, ipAddress, macAddress,
   geometry, point, lineString, polygon, geometryCollection, multiPoint, multiLineString,
   multiPolygon, morphs, nullableMorphs, uuidMorphs, nullableUuidMorphs, rememberToken, foreignId]

/-- Every method. -/
def all : List ColumnMethod := ColumnKind.all.map supported ++ unsupported

/-- The name of the method that declares a kind. -/
def kindName : ColumnKind → String
  | .string => "string"
  | .char => "char"
  | .text => "text"
  | .tinyInteger => "tinyInteger"
  | .smallInteger => "smallInteger"
  | .mediumInteger => "mediumInteger"
  | .integer => "integer"
  | .unsignedInteger => "unsignedInteger"
  | .bigInteger => "bigInteger"
  | .unsignedBigInteger => "unsignedBigInteger"
  | .float => "float"
  | .double => "double"
  | .decimal => "decimal"
  | .unsignedDecimal => "unsignedDecimal"
  | .boolean => "boolean"
  | .set => "set"
  | .set64 => "set64"
  | .json => "json"
  | .jsonb => "jsonb"
  | .timestamp => "timestamp"
  | .timestampTz => "timestampTz"
  | .dateTime => "dateTime"
  | .dateTimeTz => "dateTimeTz"

/-- The name of a method. -/
def name : ColumnMethod → String
  | supported kind => kindName kind
  | increments => "increments"
  | tinyIncrements => "tinyIncrements"
  | smallIncrements => "smallIncrements"
  | mediumIncrements => "mediumIncrements"
  | integerIncrements => "integerIncrements"
  | bigIncrements => "bigIncrements"
  | id => "id"
  | enumeration => "enum"
  | date => "date"
  | time => "time"
  | timeTz => "timeTz"
  | year => "year"
  | binary => "binary"
  | uuid => "uuid"
  | foreignUuid => "foreignUuid"
  | ipAddress => "ipAddress"
  | macAddress => "macAddress"
  | geometry => "geometry"
  | point => "point"
  | lineString => "lineString"
  | polygon => "polygon"
  | geometryCollection => "geometryCollection"
  | multiPoint => "multiPoint"
  | multiLineString => "multiLineString"
  | multiPolygon => "multiPolygon"
  | morphs => "morphs"
  | nullableMorphs => "nullableMorphs"
  | uuidMorphs => "uuidMorphs"
  | nullableUuidMorphs => "nullableUuidMorphs"
  | rememberToken => "rememberToken"
  | foreignId => "foreignId"

/-- The kind that a method declares, or the feature that it lacks. -/
def kind : ColumnMethod → Except Feature ColumnKind
  | supported kind => .ok kind
  | increments | tinyIncrements | smallIncrements | mediumIncrements | integerIncrements
  | bigIncrements | id => .error .autoIncrement
  | enumeration => .error .enumColumn
  | date => .error .dateColumn
  | time | timeTz => .error .timeColumn
  | year => .error .yearColumn
  | binary => .error .binaryColumn
  | uuid | foreignUuid => .error .uuidColumn
  | ipAddress => .error .ipAddressColumn
  | macAddress => .error .macAddressColumn
  | geometry | point | lineString | polygon | geometryCollection | multiPoint | multiLineString
  | multiPolygon => .error .geometryColumn
  | morphs | nullableMorphs | uuidMorphs | nullableUuidMorphs => .error .polymorphicColumn
  | rememberToken => .error .rememberToken
  | foreignId => .error .foreignKey

/-- The method that declares a set of integers of the narrow or the wide range. -/
def set (narrow : Bool) : ColumnMethod := supported (if narrow then .set else .set64)

end ColumnMethod

end SearchQL
