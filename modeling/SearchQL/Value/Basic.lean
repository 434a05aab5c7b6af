import SearchQL.Number.Word
import SearchQL.Number.Binary64

/-!
# Values — what a row holds and what a caller supplies

A value is a document of six shapes: null, a truth value, a number, a text, an
array and an object. Rows of an index are objects whose names are the columns.

A number is either an integer of the signed or the unsigned 64-bit range or a
finite double, and the two are never confused: `2` and `2.0` are different
numbers, because the text they are written as differs.

The fields of an object are kept in ascending order of their names, each name
once. `Fields.insert` is the only way a field gets in, so the order is visible
wherever a row is turned into columns or a value into text. Names are ordered by
the code points of their characters.
-/

namespace SearchQL

/-- A number of a value. The integers that occur fit a signed or an unsigned word, and the doubles
are finite. -/
inductive Number where
  | integer (n : Int)
  | real (x : Binary64)
deriving DecidableEq, Repr

namespace Number

/-- The signed word that a number is. A double is none, even a whole one. -/
def int64? : Number → Option Int64
  | .integer n => toInt64? n
  | .real _ => none

/-- The unsigned word that a number is. -/
def uint64? : Number → Option UInt64
  | .integer n => toUInt64? n
  | .real _ => none

/-- The double nearest to a number. -/
def toBinary64 : Number → Binary64
  | .integer n => .ofInt n
  | .real x => x

end Number

/-- Named values in ascending order of the names, each name once. -/
abbrev Fields (α : Type) := List (String × α)

namespace Fields

/-- Sets the value of a name, at the name's place in the order. -/
def insert {α : Type} (name : String) (value : α) : Fields α → Fields α
  | [] => [(name, value)]
  | (n, v) :: rest =>
    if name < n then (name, value) :: (n, v) :: rest
    else if name = n then (name, value) :: rest
    else (n, v) :: insert name value rest

/-- The fields that a list of assignments makes; of two values for one name the later one stays. -/
def ofList {α : Type} (assignments : List (String × α)) : Fields α :=
  assignments.foldl (fun fields a => fields.insert a.1 a.2) []

/-- The value of a name. -/
def get? {α : Type} (name : String) : Fields α → Option α
  | [] => none
  | (n, v) :: rest => if name = n then some v else get? name rest

@[simp]
theorem get?_insert_self {α : Type} (name : String) (value : α) (fields : Fields α) :
    (insert name value fields).get? name = some value := by
  induction fields with
  | nil => simp [insert, get?]
  | cons f rest ih =>
    obtain ⟨n, v⟩ := f
    rw [insert]
    split
    · rw [get?, if_pos rfl]
    · split
      · rw [get?, if_pos rfl]
      · next ne => rw [get?, if_neg ne, ih]

theorem get?_insert_of_ne {α : Type} {name other : String} (ne : other ≠ name) (value : α)
    (fields : Fields α) : (insert name value fields).get? other = fields.get? other := by
  induction fields with
  | nil => simp [insert, get?, ne]
  | cons f rest ih =>
    obtain ⟨n, v⟩ := f
    rw [insert]
    split
    · rw [get?, if_neg ne]
    · split
      · next same => rw [get?, get?, if_neg ne, if_neg (same ▸ ne)]
      · rw [get?, get?, ih]

/-- The names stand in strictly ascending order, so each stands once. -/
def Ordered {α : Type} (fields : Fields α) : Prop := fields.Pairwise fun a b => a.1 < b.1

theorem mem_of_mem_insert {α : Type} {name : String} {value : α} {fields : Fields α}
    {f : String × α} (h : f ∈ insert name value fields) : f = (name, value) ∨ f ∈ fields := by
  induction fields with
  | nil => simpa [insert] using h
  | cons g rest ih =>
    obtain ⟨n, v⟩ := g
    simp only [insert] at h
    split at h
    · simpa using h
    · split at h
      · rcases List.mem_cons.1 h with rfl | h
        · exact .inl rfl
        · exact .inr (List.mem_cons_of_mem _ h)
      · rcases List.mem_cons.1 h with rfl | h
        · exact .inr List.mem_cons_self
        · rcases ih h with rfl | h
          · exact .inl rfl
          · exact .inr (List.mem_cons_of_mem _ h)

theorem ordered_insert {α : Type} {fields : Fields α} (name : String) (value : α)
    (h : fields.Ordered) : (insert name value fields).Ordered := by
  induction fields with
  | nil => simp [insert, Ordered]
  | cons f rest ih =>
    obtain ⟨n, v⟩ := f
    obtain ⟨above, ordered_rest⟩ := List.pairwise_cons.1 h
    simp only [insert]
    split
    · next lt =>
      refine List.pairwise_cons.2 ⟨fun g hg => ?_, h⟩
      rcases List.mem_cons.1 hg with rfl | hg
      · exact lt
      · exact String.lt_trans lt (above g hg)
    · next not_lt =>
      split
      · next eq =>
        subst eq
        exact List.pairwise_cons.2 ⟨above, ordered_rest⟩
      · next ne =>
        refine List.pairwise_cons.2 ⟨fun g hg => ?_, ih ordered_rest⟩
        rcases mem_of_mem_insert hg with rfl | hg
        · exact String.not_le.1 fun le => ne (String.le_antisymm le (String.not_lt.1 not_lt))
        · exact above g hg

/-- Whatever is assigned, in whatever order, the fields end up in order. -/
theorem ordered_ofList {α : Type} (assignments : List (String × α)) :
    (ofList assignments).Ordered := by
  suffices ∀ fields : Fields α, fields.Ordered →
      (assignments.foldl (fun fields a => fields.insert a.1 a.2) fields).Ordered from
    this [] List.Pairwise.nil
  induction assignments with
  | nil => exact fun _ h => h
  | cons a rest ih => exact fun fields h => ih _ (ordered_insert a.1 a.2 h)

end Fields

/-- A value. -/
inductive Value where
  | null
  | bool (b : Bool)
  | number (n : Number)
  | text (s : String)
  | array (items : List Value)
  | object (fields : List (String × Value))
deriving Repr, Inhabited

/-- A row of an index: one value per column. -/
abbrev Row := Fields Value

namespace Value

/-- The text that a value is. -/
def text? : Value → Option String
  | .text s => some s
  | _ => none

/-- An integer as a value. -/
def ofInt64 (n : Int64) : Value := .number (.integer n.toInt)

/-- A double as a value. NaN and the infinities are no numbers of a value, so they become null. -/
def ofBinary64 (x : Binary64) : Value := if x.isFinite then .number (.real x) else .null

end Value

end SearchQL
