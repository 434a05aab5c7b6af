import SearchQL.Entity.Basic
import SearchQL.Proofs.MultiValue.RoundTrip

/-!
# Row decoding — each attribute by its own cast

A row is decoded attribute by attribute, in the order of the names. An attribute
without a cast stays as it is, and so does null; what becomes of any other is the
business of its cast alone. This module says that the row as a whole is no more
than that: `Entity.Decodes` is what becomes of one attribute, a row decodes if all
of its attributes do, and the one that fails it is the first in the order.

Decoding can be repeated. Whatever a cast makes of a value is a value of the form
that the cast is named for (`Cast.shaped_of_decode`), and such a value is its own
decoding (`Cast.decode_of_shaped`). The document cast is left out: the document
that a text holds may be a text again.
-/

namespace SearchQL

/-! ## Casts -/

namespace Cast

/-- The form of the values that a cast gives. A document has any form. -/
def Shaped : Cast → Value → Prop
  | multi, v => ∃ values, v = MultiValue.toValue values
  | document, _ => True
  | integer, v => ∃ n, v = .ofInt64 n
  | float, v => ∃ x : Binary64, x.isFinite = true ∧ v = .number (.real x)
  | boolean, v => ∃ b, v = .bool b
  | string, v => ∃ s, v = .text s

variable {cast : Cast} {v w : Value}

@[simp]
theorem decode_null (cast : Cast) : cast.decode .null = .ok .null := rfl

/-- What a cast gives is null or has its form. A double that is no number of a value is null. -/
theorem shaped_of_decode (decoded : cast.decode v = .ok w) : w = .null ∨ cast.Shaped w := by
  rw [decode.eq_def] at decoded
  split at decoded
  · cases decoded
    exact .inl rfl
  · cases cast with
    | multi =>
      obtain ⟨values, -, rfl⟩ := map_eq_ok_iff.mp decoded
      exact .inr ⟨values, rfl⟩
    | document => exact .inr trivial
    | integer =>
      obtain ⟨n, -, rfl⟩ := map_eq_ok_iff.mp decoded
      exact .inr ⟨n, rfl⟩
    | float =>
      obtain ⟨x, -, rfl⟩ := map_eq_ok_iff.mp decoded
      rw [Value.ofBinary64]
      split
      · exact .inr ⟨x, ‹_›, rfl⟩
      · exact .inl rfl
    | boolean =>
      cases decoded
      exact .inr ⟨_, rfl⟩
    | string =>
      cases decoded
      exact .inr (by cases v <;> exact ⟨_, rfl⟩)

theorem toInteger_ofInt64 (n : Int64) : toInteger (.ofInt64 n) = .ok n := by
  simp [toInteger, Value.ofInt64, Number.int64?]

/-- A value of the form of a cast is its own decoding. -/
theorem decode_of_shaped (kept : cast ≠ .document) (shaped : cast.Shaped w) :
    cast.decode w = .ok w := by
  cases cast with
  | multi =>
    obtain ⟨values, rfl⟩ := shaped
    exact map_eq_ok_iff.mpr ⟨values, MultiValue.ofValue_toValue values, rfl⟩
  | document => exact absurd rfl kept
  | integer =>
    obtain ⟨n, rfl⟩ := shaped
    exact map_eq_ok_iff.mpr ⟨n, toInteger_ofInt64 n, rfl⟩
  | float =>
    obtain ⟨x, finite, rfl⟩ := shaped
    exact map_eq_ok_iff.mpr ⟨x, rfl, by rw [Value.ofBinary64, if_pos finite]⟩
  | boolean =>
    obtain ⟨b, rfl⟩ := shaped
    rfl
  | string =>
    obtain ⟨s, rfl⟩ := shaped
    rfl

/-- Decoding what was decoded changes nothing. -/
theorem decode_of_decode (kept : cast ≠ .document) (decoded : cast.decode v = .ok w) :
    cast.decode w = .ok w := by
  obtain rfl | shaped := shaped_of_decode decoded
  · exact cast.decode_null
  · exact decode_of_shaped kept shaped

end Cast

/-! ## One attribute -/

namespace Entity

variable (e : Entity)

/-- Whether an attribute decodes, if there is a cast for it. -/
def Decodable (raw : String × Value) : Prop :=
  ∀ cast, e.castFor? raw.1 = some cast → ∃ v, cast.decode raw.2 = .ok v

/-- Whether there is a cast for an attribute, and it fails. -/
def FailsWith (raw : String × Value) (error : Error) : Prop :=
  ∃ cast, e.castFor? raw.1 = some cast ∧ cast.decode raw.2 = .error error

/-- What becomes of an attribute. -/
structure Decodes (raw decoded : String × Value) : Prop where
  name : decoded.1 = raw.1
  uncast : e.castFor? raw.1 = none → decoded.2 = raw.2
  null : raw.2 = .null → decoded.2 = .null
  cast : ∀ cast, e.castFor? raw.1 = some cast → cast.decode raw.2 = .ok decoded.2

variable {e} {raw decoded : String × Value} {cast : Cast}

theorem decodeField_of_cast (declared : e.castFor? raw.1 = some cast) :
    e.decodeField raw = (cast.decode raw.2).map fun v => (raw.1, v) := by
  rw [decodeField, declared]

theorem decodeField_of_no_cast (undeclared : e.castFor? raw.1 = none) :
    e.decodeField raw = .ok raw := by
  rw [decodeField, undeclared]

theorem decodeField_eq_ok_iff : e.decodeField raw = .ok decoded ↔ e.Decodes raw decoded := by
  cases declared : e.castFor? raw.1 with
  | none =>
    rw [decodeField_of_no_cast declared, Except.ok.injEq]
    constructor
    · rintro rfl
      exact ⟨rfl, fun _ => rfl, id, fun cast found => absurd (declared.symm.trans found) nofun⟩
    · intro decodes
      exact Prod.ext decodes.name.symm (decodes.uncast declared).symm
  | some cast =>
    rw [decodeField_of_cast declared, map_eq_ok_iff]
    constructor
    · rintro ⟨v, given, rfl⟩
      refine ⟨rfl, fun undeclared => absurd (declared.symm.trans undeclared) nofun, ?_, ?_⟩
      · intro is_null
        rw [is_null, Cast.decode_null, Except.ok.injEq] at given
        exact given.symm
      · intro other found
        cases declared.symm.trans found
        exact given
    · intro decodes
      exact ⟨decoded.2, decodes.cast cast declared, Prod.ext decodes.name.symm rfl⟩

theorem exists_decodeField_eq_ok_iff :
    (∃ decoded, e.decodeField raw = .ok decoded) ↔ e.Decodable raw := by
  cases declared : e.castFor? raw.1 with
  | none => simp [decodeField_of_no_cast declared, Decodable, declared]
  | some cast => simp [decodeField_of_cast declared, Decodable, declared, map_eq_ok_iff]

theorem decodeField_eq_error_iff {error : Error} :
    e.decodeField raw = .error error ↔ e.FailsWith raw error := by
  cases declared : e.castFor? raw.1 with
  | none => simp [decodeField_of_no_cast declared, FailsWith, declared]
  | some cast =>
    rw [decodeField_of_cast declared]
    cases given : cast.decode raw.2 <;> simp [Except.map, FailsWith, declared, given]

/-- A decoded attribute is its own decoding, documents apart. -/
theorem Decodes.again (decodes : e.Decodes raw decoded)
    (no_document : e.castFor? raw.1 ≠ some .document) : e.Decodes decoded decoded := by
  have fixed : ∀ cast, e.castFor? raw.1 = some cast → cast.decode decoded.2 = .ok decoded.2 := by
    intro cast declared
    refine Cast.decode_of_decode ?_ (decodes.cast cast declared)
    rintro rfl
    exact no_document declared
  exact ⟨rfl, fun _ => rfl, id, decodes.name ▸ fixed⟩

/-! ## A whole row -/

theorem decodeRow_eq_ok_iff {row decoded : Row} :
    e.decodeRow row = .ok decoded ↔ List.Forall₂ e.Decodes row decoded := by
  rw [decodeRow, mapM_eq_ok_iff_forall₂]
  simp only [decodeField_eq_ok_iff]

theorem names_of_decodes {row decoded : Row} (decodes : List.Forall₂ e.Decodes row decoded) :
    decoded.map Prod.fst = row.map Prod.fst := by
  induction decodes with
  | nil => rfl
  | cons first _ ih => rw [List.map_cons, List.map_cons, first.name, ih]

theorem forall₂_decodes_again {row decoded : Row} (decodes : List.Forall₂ e.Decodes row decoded)
    (no_document : ∀ raw ∈ row, e.castFor? raw.1 ≠ some .document) :
    List.Forall₂ e.Decodes decoded decoded := by
  induction decodes with
  | nil => exact .nil
  | cons first _ ih =>
    obtain ⟨this, those⟩ := List.forall_mem_cons.mp no_document
    exact .cons (first.again this) (ih those)

/-- In a row in order, what stands before an attribute is what has a lesser name. -/
theorem mem_before_iff {before after : Row} {raw other : String × Value}
    (ordered : Fields.Ordered (before ++ raw :: after)) :
    other ∈ before ↔ other ∈ before ++ raw :: after ∧ other.1 < raw.1 := by
  obtain ⟨-, behind, across⟩ := List.pairwise_append.mp ordered
  constructor
  · intro mem
    exact ⟨List.mem_append_left _ mem, across other mem raw List.mem_cons_self⟩
  · rintro ⟨mem, less⟩
    obtain mem | mem := List.mem_append.mp mem
    · exact mem
    · obtain rfl | mem := List.mem_cons.mp mem
      · exact absurd less (String.lt_irrefl _)
      · exact absurd less (String.lt_asymm (List.rel_of_pairwise_cons behind mem))

/-- A row fails with the error of the first of its attributes that fails. -/
theorem decodeRow_eq_error_iff {row : Row} (ordered : row.Ordered) {error : Error} :
    e.decodeRow row = .error error ↔
      ∃ raw ∈ row, e.FailsWith raw error ∧ ∀ other ∈ row, other.1 < raw.1 → e.Decodable other := by
  simp only [decodeRow, mapM_eq_error_iff, exists_decodeField_eq_ok_iff, decodeField_eq_error_iff]
  constructor
  · rintro ⟨before, raw, after, rfl, decodable, fails⟩
    refine ⟨raw, List.mem_append_right _ List.mem_cons_self, fails, fun other mem less => ?_⟩
    exact decodable other ((mem_before_iff ordered).mpr ⟨mem, less⟩)
  · rintro ⟨raw, mem, fails, decodable⟩
    obtain ⟨before, after, rfl⟩ := List.append_of_mem mem
    refine ⟨before, raw, after, rfl, fun other earlier => ?_, fails⟩
    obtain ⟨within, less⟩ := (mem_before_iff ordered).mp earlier
    exact decodable other within less

/-- **A row is decoded attribute by attribute.** It decodes exactly if every attribute that has a cast
does, and otherwise fails with the error of the one whose name comes first. What decodes has the
names of the row; an attribute without a cast and one that is null are as they were, and every other
is what its cast makes of it. A row without documents that was decoded is its own decoding. -/
theorem decodeRow_by_cast {row : Row} (ordered : row.Ordered) :
    ((∃ decoded, e.decodeRow row = .ok decoded) ↔ ∀ raw ∈ row, e.Decodable raw) ∧
    (∀ error, e.decodeRow row = .error error ↔
      ∃ raw ∈ row, e.FailsWith raw error ∧ ∀ other ∈ row, other.1 < raw.1 → e.Decodable other) ∧
    ∀ decoded, e.decodeRow row = .ok decoded →
      decoded.map Prod.fst = row.map Prod.fst ∧ List.Forall₂ e.Decodes row decoded ∧
        ((∀ raw ∈ row, e.castFor? raw.1 ≠ some .document) → e.decodeRow decoded = .ok decoded) := by
  refine ⟨?_, ?_, ?_⟩
  · simp only [decodeRow, exists_mapM_eq_ok_iff, exists_decodeField_eq_ok_iff]
  · intro error
    exact decodeRow_eq_error_iff ordered
  · intro decoded given
    have decodes := decodeRow_eq_ok_iff.mp given
    refine ⟨names_of_decodes decodes, decodes, ?_⟩
    intro no_document
    exact decodeRow_eq_ok_iff.mpr (forall₂_decodes_again decodes no_document)

/-- A double beyond the finite ones becomes null and stays null, and a list of integers that was
text stays a list. -/
theorem decodeRow_by_cast_mixed :
    let e : Entity :=
      { table := "docs", casts := [("price", .float), ("stock", .integer), ("tags", .multi)] }
    let row : Row :=
      [("price", .text "inf"), ("stock", .bool true), ("tags", .text "(3, 1)"), ("title", .null)]
    let decoded : Row :=
      [("price", .null), ("stock", .ofInt64 1), ("tags", MultiValue.toValue [3, 1]),
        ("title", .null)]
    row.Ordered ∧ e.decodeRow row = .ok decoded ∧ e.decodeRow decoded = .ok decoded := by
  intro e row decoded
  have ordered : row.Ordered := by
    unfold Fields.Ordered
    decide
  have given : e.decodeRow row = .ok decoded := by rfl
  have no_document : ∀ raw ∈ row, e.castFor? raw.1 ≠ some .document := by
    decide
  exact ⟨ordered, given, ((decodeRow_by_cast ordered).2.2 decoded given).2.2 no_document⟩

end Entity

end SearchQL
