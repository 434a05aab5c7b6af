import SearchQL.Entity.Cast

/-!
# Entities — rows of one index with declared casts

An entity describes the rows of an index to its callers: which column is the key,
which attributes decode how, and how many rows make a page. Indexes keep no times
of creation or change and give out no ids, so an entity never does either.
-/

namespace SearchQL

/-- The description of the rows of an index. -/
structure Entity where
  table : String
  key : String := "id"
  casts : Fields Cast := []
  perPage : UInt64 := 15

namespace Entity

/-- Whether an entity keeps the times of creation and change. -/
def usesTimestamps (_ : Entity) : Bool := false

/-- Whether the index gives out the ids of an entity. -/
def isIncrementing (_ : Entity) : Bool := false

/-- Declares the cast of an attribute by its name. -/
def declareCast (e : Entity) (column cast : String) : Except Error Entity :=
  (Cast.ofName cast).map fun c => { e with casts := Fields.insert column c e.casts }

/-- Declares several casts in order; the first unknown one is reported. -/
def declareCasts (e : Entity) (casts : List (String × String)) : Except Error Entity :=
  casts.foldlM (fun e c => e.declareCast c.1 c.2) e

/-- The cast of an attribute. -/
def castFor? (e : Entity) (column : String) : Option Cast := Fields.get? column e.casts

/-- One attribute decoded by its cast; without a cast it stays as it is. -/
def decodeField (e : Entity) (field : String × Value) : Except Error (String × Value) :=
  match e.castFor? field.1 with
  | some cast => (cast.decode field.2).map fun v => (field.1, v)
  | none => .ok field

/-- A row with its attributes decoded, in the order of their names. -/
def decodeRow (e : Entity) (row : Row) : Except Error Row := row.mapM e.decodeField

/-- An attribute as a list of integers. One that is missing, null or empty text holds none. -/
def multiValue (row : Row) (column : String) : Except Error (List Int64) :=
  match Fields.get? column row with
  | none => .ok []
  | some .null => .ok []
  | some (.text "") => .ok []
  | some v => MultiValue.ofValue v

/-- The id of a row, for statements that address it by its key. -/
def keyOf (e : Entity) (row : Row) : Except Error Int64 :=
  match Fields.get? e.key row with
  | none => .error (.decode "" (.missingKey e.key))
  | some v => Cast.toInteger v

end Entity

end SearchQL
