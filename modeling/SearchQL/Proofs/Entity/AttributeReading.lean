import SearchQL.Proofs.Entity.RowDecoding

/-!
# Reading attributes — multi-value attributes of raw and of decoded rows

There are two ways to the integers of a multi-value attribute. One reads them off the
row as the daemon sent it, the other decodes the whole row first and reads them off the
result. They cross the same decoder with different values: text, a number or null on the
first way, and on the second an array that the decoder itself has made, or null.

Reading has cases of its own for what is missing, null or empty text. None of them
disagrees with the decoder (`multiValue_eq`), so both ways are the decoder's, and the
question is only what it makes of its own results: the same integers again.

Main statement (`multiValue_decodeRow`): the two ways agree for every row that decodes.
An attribute that cannot be read keeps its row from being decoded, though the row may
report another attribute that comes earlier.
-/

namespace SearchQL

theorem Fields.mem_of_get?_eq_some {α : Type} {fields : Fields α} {name : String} {value : α}
    (found : fields.get? name = some value) : (name, value) ∈ fields := by
  induction fields with
  | nil => cases found
  | cons f fields ih =>
    rw [get?] at found
    split at found
    · next same =>
      cases found
      rw [same]
      exact List.mem_cons_self
    · exact List.mem_cons_of_mem _ (ih found)

/-! ## The multi-value cast -/

namespace Cast

variable {v w : Value}

theorem decode_multi_of_ne_null (given : v ≠ .null) :
    multi.decode v = (MultiValue.ofValue v).map MultiValue.toValue := by
  unfold decode
  split
  · exact absurd rfl given
  · rfl

/-- What the cast makes of a value holds the integers of the value. -/
theorem exists_integers_of_decode (decoded : multi.decode v = .ok w) :
    ∃ values, MultiValue.ofValue v = .ok values ∧ MultiValue.ofValue w = .ok values := by
  by_cases given : v = .null
  · subst given
    cases decoded
    exact ⟨[], rfl, rfl⟩
  · rw [decode_multi_of_ne_null given] at decoded
    obtain ⟨values, integers, rfl⟩ := map_eq_ok_iff.mp decoded
    exact ⟨values, integers, MultiValue.ofValue_toValue values⟩

/-- A value without integers fails the cast, and null is none such. -/
theorem decode_multi_of_error {error : Error} (failed : MultiValue.ofValue v = .error error) :
    multi.decode v = .error error := by
  have given : v ≠ .null := by
    rintro rfl
    cases failed
  rw [decode_multi_of_ne_null given, failed]
  rfl

end Cast

/-! ## Attributes of rows -/

namespace Entity

variable {e : Entity} {row decoded : Row} {column : String}

/-- Reading an attribute is decoding what is there. The cases for null and for the empty text are what
the decoder says of them. -/
theorem multiValue_eq (row : Row) (column : String) :
    multiValue row column =
      match Fields.get? column row with
      | none => .ok []
      | some v => MultiValue.ofValue v := by
  unfold multiValue
  split
  · next missing => rw [missing]
  · next null =>
    rw [null]
    rfl
  · next empty =>
    rw [empty]
    rfl
  · next found => rw [found]

/-- Attributes keep their names, so what is found under a name is what became of what was there. -/
theorem get?_of_decodes (decodes : List.Forall₂ e.Decodes row decoded) (column : String) :
    Option.Rel (fun v w => e.Decodes (column, v) (column, w)) (Fields.get? column row)
      (Fields.get? column decoded) := by
  induction decodes with
  | nil => exact .none
  | @cons raw cell row decoded first _ ih =>
    obtain ⟨name, v⟩ := raw
    obtain ⟨other, w⟩ := cell
    obtain rfl : other = name := first.name
    rw [Fields.get?, Fields.get?]
    split
    · next same =>
      subst same
      exact .some first
    · exact ih

/-- In a row that decodes, a multi-value attribute can be read, and it can be read again. -/
theorem exists_multiValue_of_decodes (declared : e.castFor? column = some .multi)
    (decodes : List.Forall₂ e.Decodes row decoded) :
    ∃ values, multiValue row column = .ok values ∧ multiValue decoded column = .ok values := by
  have found := get?_of_decodes decodes column
  rw [multiValue_eq, multiValue_eq]
  generalize Fields.get? column row = before, Fields.get? column decoded = after at found ⊢
  cases found with
  | none => exact ⟨[], rfl, rfl⟩
  | some became => exact Cast.exists_integers_of_decode (became.cast .multi declared)

/-- An attribute that cannot be read is there, and fails its cast. -/
theorem exists_failsWith_of_multiValue {error : Error} (declared : e.castFor? column = some .multi)
    (failed : multiValue row column = .error error) :
    ∃ v, (column, v) ∈ row ∧ e.FailsWith (column, v) error := by
  rw [multiValue_eq] at failed
  split at failed
  · cases failed
  · next v found =>
    exact ⟨v, Fields.mem_of_get?_eq_some found, .multi, declared, Cast.decode_multi_of_error failed⟩

/-- **A multi-value attribute is read the same from a row and from the decoded row.** If the row
decodes, both ways give one list of integers. If the attribute cannot be read from the row, the row
does not decode, and it fails for the same reason if all attributes before this one decode. -/
theorem multiValue_decodeRow (declared : e.castFor? column = some .multi) (row : Row) :
    (∀ decoded, e.decodeRow row = .ok decoded →
      ∃ values, multiValue row column = .ok values ∧ multiValue decoded column = .ok values) ∧
    ∀ error, multiValue row column = .error error →
      (∃ failure, e.decodeRow row = .error failure) ∧
      (row.Ordered → (∀ other ∈ row, other.1 < column → e.Decodable other) →
        e.decodeRow row = .error error) := by
  have readable : ∀ decoded, e.decodeRow row = .ok decoded →
      ∃ values, multiValue row column = .ok values ∧ multiValue decoded column = .ok values :=
    fun decoded given => exists_multiValue_of_decodes declared (decodeRow_eq_ok_iff.mp given)
  refine ⟨readable, fun error failed => ⟨?_, fun ordered others => ?_⟩⟩
  · cases given : e.decodeRow row with
    | error failure => exact ⟨failure, rfl⟩
    | ok decoded =>
      obtain ⟨values, read, -⟩ := readable decoded given
      rw [failed] at read
      cases read
  · obtain ⟨v, mem, fails⟩ := exists_failsWith_of_multiValue declared failed
    exact (decodeRow_eq_error_iff ordered).mpr ⟨(column, v), mem, fails, others⟩

/-- Tuple text with blanks is read both ways. Text that is none fails the row, which reports the
attribute before it. -/
theorem multiValue_decodeRow_tuple :
    let e : Entity := { table := "docs", casts := [("stock", .integer), ("tags", .multi)] }
    let row : Row := [("stock", .text "7"), ("tags", .text " (3, 1) ")]
    let broken : Row := [("stock", .text "x"), ("tags", .text "(3, y)")]
    e.castFor? "tags" = some .multi ∧
      e.decodeRow row = .ok [("stock", .ofInt64 7), ("tags", MultiValue.toValue [3, 1])] ∧
      (∃ values, multiValue row "tags" = .ok values ∧
        multiValue [("stock", .ofInt64 7), ("tags", MultiValue.toValue [3, 1])] "tags" =
          .ok values) ∧
      multiValue broken "tags" = .error (.decode "(3, y)" (.badToken "y")) ∧
      ∃ failure, e.decodeRow broken = .error failure := by
  intro e row broken
  have declared : e.castFor? "tags" = some .multi := by decide
  have given : e.decodeRow row =
      .ok [("stock", .ofInt64 7), ("tags", MultiValue.toValue [3, 1])] := by rfl
  have failed : multiValue broken "tags" = .error (.decode "(3, y)" (.badToken "y")) := by rfl
  exact ⟨declared, given, (multiValue_decodeRow declared row).1 _ given, failed,
    ((multiValue_decodeRow declared broken).2 _ failed).1⟩

end Entity

end SearchQL
