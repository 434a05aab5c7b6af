import SearchQL.Connection.Operation

/-!
# Column lookups — by the name, and by the name in any case

A description of an index is asked two questions about a column: whether it is
there, and of which type it is. Both go through the rows of the description, and
both can only find what a row lists. They compare names differently. Whether a
column is there does not depend on the case of its ASCII letters; its type is
found under exactly the listed name.

So there are names for which the first answer is yes and the second is that there
is no such column: those that are listed in another case only (`InOtherCase`).
Main statement (`lookups_agree_iff`): for a description whose rows all have a name
and a type the two lookups agree on every other name, and on these they never do.
A list of names adds nothing new, except that one name that is not there at all
settles both answers and hides the difference.
-/

namespace SearchQL

namespace Listing

variable {rows : List Row} {column : String}

/-- Whether a row of a description gives the name and the type of a column. -/
structure IsColumn (row : Row) : Prop where
  named : ∃ name, text? "Field" row = some name
  typed : ∃ type, text? "Type" row = some type

/-! ## What each lookup finds -/

theorem mem_columnNames_iff :
    column ∈ columnNames rows ↔ ∃ row ∈ rows, text? "Field" row = some column :=
  List.mem_filterMap

theorem hasColumn_iff :
    hasColumn rows column = true ↔
      ∃ name ∈ columnNames rows, Text.sameIgnoringCase column name = true :=
  List.any_eq_true

theorem hasColumn_of_mem (h : column ∈ columnNames rows) : hasColumn rows column = true :=
  hasColumn_iff.mpr ⟨column, h, beq_self_eq_true _⟩

theorem hasColumns_iff {columns : List String} :
    hasColumns rows columns = true ↔ ∀ column ∈ columns, hasColumn rows column = true :=
  List.all_eq_true

/-- A type is found under the listed names and no others. That the rows have types is needed: the
lookup stops at the first row of the name, with or without one. -/
theorem isSome_columnType?_iff (complete : ∀ row ∈ rows, IsColumn row) :
    (columnType? rows column).isSome = true ↔ column ∈ columnNames rows := by
  rw [mem_columnNames_iff, columnType?]
  cases found : rows.find? fun row => text? "Field" row == some column with
  | none =>
    rw [List.find?_eq_none] at found
    simpa using found
  | some row =>
    obtain ⟨type, typed⟩ := (complete row (List.mem_of_find?_eq_some found)).typed
    have named : text? "Field" row = some column := by simpa using List.find?_some found
    have listed : ∃ row ∈ rows, text? "Field" row = some column :=
      ⟨row, List.mem_of_find?_eq_some found, named⟩
    simp [typed, listed]

/-! ## Where they differ -/

/-- Whether a name is listed, but only with other letters in upper case. -/
def InOtherCase (rows : List Row) (column : String) : Prop :=
  column ∉ columnNames rows ∧ ∃ name ∈ columnNames rows, Text.sameIgnoringCase column name = true

instance : Decidable (InOtherCase rows column) := inferInstanceAs (Decidable (_ ∧ _))

theorem hasColumn_iff_mem_or_inOtherCase :
    hasColumn rows column = true ↔ column ∈ columnNames rows ∨ InOtherCase rows column := by
  constructor
  · intro there
    by_cases listed : column ∈ columnNames rows
    · exact .inl listed
    · exact .inr ⟨listed, hasColumn_iff.mp there⟩
  · rintro (listed | other)
    · exact hasColumn_of_mem listed
    · exact hasColumn_iff.mpr other.2

theorem hasColumn_iff_mem (listed : ¬ InOtherCase rows column) :
    hasColumn rows column = true ↔ column ∈ columnNames rows := by
  rw [hasColumn_iff_mem_or_inOtherCase, or_iff_left listed]

theorem isSome_columnType?_eq_hasColumn_iff (complete : ∀ row ∈ rows, IsColumn row) :
    (columnType? rows column).isSome = hasColumn rows column ↔ ¬ InOtherCase rows column := by
  rw [Bool.eq_iff_iff, isSome_columnType?_iff complete]
  constructor
  · intro agree other
    exact other.1 (agree.mpr (hasColumn_iff.mpr other.2))
  · exact fun listed => (hasColumn_iff_mem listed).symm

/-- For a list of names, one that is not there at all settles the matter too. -/
theorem hasColumns_iff_isSome_iff (complete : ∀ row ∈ rows, IsColumn row) (columns : List String) :
    (hasColumns rows columns = true ↔ ∀ column ∈ columns, (columnType? rows column).isSome = true) ↔
      (∃ column ∈ columns, hasColumn rows column = false) ∨
        ∀ column ∈ columns, ¬ InOtherCase rows column := by
  simp only [hasColumns_iff, isSome_columnType?_iff complete]
  constructor
  · intro agree
    by_cases there : ∀ column ∈ columns, hasColumn rows column = true
    · exact .inr fun column mem other => other.1 (agree.mp there column mem)
    · left
      simpa using there
  · rintro (⟨column, mem, absent⟩ | listed)
    · have not_there : ¬ hasColumn rows column = true := by simp [absent]
      exact iff_of_false (fun all => not_there (all column mem)) fun all =>
        not_there (hasColumn_of_mem (all column mem))
    · exact forall₂_congr fun column mem => hasColumn_iff_mem (listed column mem)

end Listing

/-! ## The two questions to a daemon -/

namespace Inspection

variable {tablePrefix table : String} {link : Link} {rows : List Row}

/-- The request for the description of an index. -/
def description (tablePrefix table : String) : Request :=
  ⟨.desc, Listing.describe (Query.tableName tablePrefix table), []⟩

/-- What a link answers to an inspection. -/
def answer (tablePrefix : String) (link : Link) (inspection : Inspection) : Except Error Answer :=
  ((Operation.inspect inspection).run tablePrefix link).answer

/-- What is read off the description is answered. -/
theorem answer_describe (described : (link.fetch (description tablePrefix table)).answer = .ok rows)
    (read : List Row → Answer) :
    ((plan.describe tablePrefix table read).run link).answer = .ok (read rows) := by
  show (link.fetch (description tablePrefix table)).answer.bind _ = _
  rw [described]
  rfl

theorem answer_columnType (described : (link.fetch (description tablePrefix table)).answer = .ok rows)
    (column : String) :
    answer tablePrefix link (.columnType table column) =
      .ok (.columnType (Listing.columnType? rows column)) :=
  answer_describe described _

theorem answer_hasColumn (described : (link.fetch (description tablePrefix table)).answer = .ok rows)
    (column : String) :
    answer tablePrefix link (.hasColumn table column) = .ok (.flag (Listing.hasColumn rows column)) :=
  answer_describe described _

theorem answer_hasColumns
    (described : (link.fetch (description tablePrefix table)).answer = .ok rows)
    (columns : List String) :
    answer tablePrefix link (.hasColumns table columns) =
      .ok (.flag (Listing.hasColumns rows columns)) :=
  answer_describe described _

/-- **The type of a column is known exactly if the column is there**, unless the name is listed in
another case only: then the column is there and has no type. So for a list of names all of them are
there exactly if all their types are known, unless one of them is listed in another case only and
none of them is missing. -/
theorem lookups_agree_iff (described : (link.fetch (description tablePrefix table)).answer = .ok rows)
    (complete : ∀ row ∈ rows, Listing.IsColumn row) :
    (∀ column, ∃ type? there,
      answer tablePrefix link (.columnType table column) = .ok (.columnType type?) ∧
      answer tablePrefix link (.hasColumn table column) = .ok (.flag there) ∧
      (type?.isSome = true ↔ column ∈ Listing.columnNames rows) ∧
      (there = true ↔ column ∈ Listing.columnNames rows ∨ Listing.InOtherCase rows column) ∧
      (type?.isSome = there ↔ ¬ Listing.InOtherCase rows column)) ∧
    ∀ columns, ∃ there,
      answer tablePrefix link (.hasColumns table columns) = .ok (.flag there) ∧
      ((there = true ↔ ∀ column ∈ columns, ∃ type,
          answer tablePrefix link (.columnType table column) = .ok (.columnType (some type))) ↔
        (∃ column ∈ columns,
          answer tablePrefix link (.hasColumn table column) = .ok (.flag false)) ∨
        ∀ column ∈ columns, ¬ Listing.InOtherCase rows column) := by
  constructor
  · intro column
    exact ⟨Listing.columnType? rows column, Listing.hasColumn rows column,
      answer_columnType described column, answer_hasColumn described column,
      Listing.isSome_columnType?_iff complete, Listing.hasColumn_iff_mem_or_inOtherCase,
      Listing.isSome_columnType?_eq_hasColumn_iff complete⟩
  · intro columns
    refine ⟨Listing.hasColumns rows columns, answer_hasColumns described columns, ?_⟩
    have agree := Listing.hasColumns_iff_isSome_iff complete columns
    simpa only [answer_columnType described, answer_hasColumn described, Except.ok.injEq,
      Answer.columnType.injEq, Answer.flag.injEq, Option.isSome_iff_exists] using agree

/-- The description of an index with two columns, one of which has a capital in its name. -/
def twoColumns : List Row :=
  [[("Field", .text "id"), ("Type", .text "bigint")],
    [("Field", .text "Tags"), ("Type", .text "mva")]]

/-- A link that answers with it. -/
def twoColumnsLink : Link := .recording (({} : Recorder).respond "DESC rt_products" twoColumns)

theorem described_twoColumns :
    (twoColumnsLink.fetch (description "rt_" "products")).answer = .ok twoColumns :=
  rfl

theorem isColumn_of_mem_twoColumns : ∀ row ∈ twoColumns, Listing.IsColumn row := by
  intro row mem
  simp only [twoColumns, List.mem_cons, List.not_mem_nil, or_false] at mem
  rcases mem with rfl | rfl <;> exact ⟨⟨_, rfl⟩, ⟨_, rfl⟩⟩

/-- The lookups agree on a name as it is listed, and differ on one in another case. -/
theorem lookups_agree_iff_two_columns :
    (∃ type, answer "rt_" twoColumnsLink (.columnType "products" "Tags") =
        .ok (.columnType (some type))) ∧
      answer "rt_" twoColumnsLink (.hasColumn "products" "Tags") = .ok (.flag true) ∧
      ∃ type? there,
        answer "rt_" twoColumnsLink (.columnType "products" "tags") = .ok (.columnType type?) ∧
        answer "rt_" twoColumnsLink (.hasColumn "products" "tags") = .ok (.flag there) ∧
        type?.isSome ≠ there := by
  have lookups := (lookups_agree_iff described_twoColumns isColumn_of_mem_twoColumns).1
  obtain ⟨type?, there, typed, found, listed, listed_or_other, -⟩ := lookups "Tags"
  obtain ⟨type?', there', typed', found', -, -, agree⟩ := lookups "tags"
  have mem : "Tags" ∈ Listing.columnNames twoColumns := by decide
  obtain ⟨type, rfl⟩ := Option.isSome_iff_exists.mp (listed.mpr mem)
  rw [listed_or_other.mpr (.inl mem)] at found
  have other : Listing.InOtherCase twoColumns "tags" := by decide
  exact ⟨⟨type, typed⟩, found, type?', there', typed', found', fun same => agree.mp same other⟩

/-- A column that is there and has no type. -/
theorem lookups_disagree_in_other_case :
    (twoColumnsLink.fetch (description "rt_" "products")).answer = .ok twoColumns ∧
      (∀ row ∈ twoColumns, Listing.IsColumn row) ∧
      answer "rt_" twoColumnsLink (.hasColumn "products" "TAGS") = .ok (.flag true) ∧
      answer "rt_" twoColumnsLink (.columnType "products" "TAGS") = .ok (.columnType none) := by
  have there : Listing.hasColumn twoColumns "TAGS" = true := by decide
  have untyped : Listing.columnType? twoColumns "TAGS" = none := by decide
  refine ⟨described_twoColumns, isColumn_of_mem_twoColumns, ?_, ?_⟩
  · rw [answer_hasColumn described_twoColumns, there]
  · rw [answer_columnType described_twoColumns, untyped]

end Inspection

end SearchQL
