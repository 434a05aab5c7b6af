import Mathlib.Data.Fintype.EquivFin
import Mathlib.Data.List.Duplicate
import SearchQL.Proofs.Query.RowWrite

/-!
# Repeated columns — what a write of rows does when a name stands twice

The rows of a write are lists of named values. `SearchQL.Proofs.Query.RowWrite`
is about rows whose names are distinct, as those of an object are; here nothing
is assumed of the names.

A write compares each row with the first one in two steps: it counts the cells,
and it looks up each column of the first row. `Fits` is what the two steps check
together, and the value written under a column is that of the first cell of that
name (`exists_write_iff`, `of_write`). For distinct columns this says that the
row is a rearrangement of the first row's columns. For a column that stands twice
it does not: the second cell of the name is never looked at, so a row may have a
cell of another name in its place, and the first value is written twice.

`write_faithful_iff_nodup` says so exactly: a write takes the rows that carry the
columns of the first row, no others, and writes each of their cells once, if and
only if no column stands twice.
-/

namespace SearchQL.Query

/-! ## Looking a row up column by column -/

/-- Whether a row has as many cells as there are columns, and a cell for each of them. -/
def Fits (columns : List String) (row : List (String × Param)) : Prop :=
  row.length = columns.length ∧ ∀ column ∈ columns, column ∈ row.map (·.1)

instance (columns : List String) (row : List (String × Param)) : Decidable (Fits columns row) :=
  inferInstanceAs (Decidable (_ ∧ _))

/-- The value of the first cell of a column. -/
def firstValue (row : List (String × Param)) (column : String) : Param :=
  ((row.find? (·.1 = column)).map (·.2)).getD .null

variable {columns : List String} {row : List (String × Param)}

theorem find?_eq_none_iff {column : String} :
    row.find? (·.1 = column) = none ↔ column ∉ row.map (·.1) := by
  simp only [List.find?_eq_none, decide_eq_true_eq, List.mem_map, not_exists, not_and]

theorem align?_of_fits (h : Fits columns row) :
    align? columns row = some (columns.map (firstValue row)) := by
  have found : ∀ column ∈ columns,
      (row.find? (·.1 = column)).map (·.2) = pure (firstValue row column) := by
    intro column mem
    cases lookup : row.find? (·.1 = column) with
    | none => exact absurd (h.2 column mem) (find?_eq_none_iff.mp lookup)
    | some cell => simp [firstValue, lookup]
  rw [align?, if_pos h.1]
  exact mapM_eq_pure found

theorem fits_of_align? {values : List Param} (h : align? columns row = some values) :
    Fits columns row := by
  unfold align? at h
  split at h
  · rename_i length
    refine ⟨length, fun column mem => ?_⟩
    obtain ⟨named, rfl, -, within⟩ := exists_named h
    obtain ⟨cell, mem_named, rfl⟩ := List.mem_map.mp mem
    exact List.mem_map_of_mem (within cell mem_named)
  · cases h

theorem align?_eq_some_iff {values : List Param} :
    align? columns row = some values ↔
      Fits columns row ∧ values = columns.map (firstValue row) := by
  constructor
  · intro h
    have fits := fits_of_align? h
    rw [align?_of_fits fits] at h
    exact ⟨fits, (Option.some.inj h).symm⟩
  · rintro ⟨fits, rfl⟩
    exact align?_of_fits fits

/-- All rows have to fit, and then each is looked up column by column. -/
theorem alignFrom_eq_ok_iff {verb : WriteVerb} {number : Nat} {rows : List (List (String × Param))}
    {tuples : List (List Param)} :
    alignFrom verb columns number rows = .ok tuples ↔
      (∀ row ∈ rows, Fits columns row) ∧
        tuples = rows.map fun row => columns.map (firstValue row) := by
  induction rows generalizing number tuples with
  | nil =>
    simp [alignFrom, eq_comm]
  | cons row rest ih =>
    rw [alignFrom, List.forall_mem_cons, List.map_cons]
    cases found : align? columns row with
    | none =>
      have unfit : ¬ Fits columns row := by
        intro fits
        rw [align?_of_fits fits] at found
        cases found
      simp [unfit]
    | some values =>
      obtain ⟨fits, rfl⟩ := align?_eq_some_iff.mp found
      simp only [fits, true_and]
      constructor
      · intro h
        cases tail : alignFrom verb columns (number + 1) rest with
        | error e =>
          rw [tail] at h
          cases h
        | ok others =>
          rw [tail] at h
          cases h
          obtain ⟨all, rfl⟩ := ih.mp tail
          exact ⟨all, rfl⟩
      · rintro ⟨all, rfl⟩
        rw [ih.mpr ⟨all, rfl⟩]
        rfl

/-! ## The statement of a write -/

variable {tablePrefix : String} {verb : WriteVerb} {q : Query} {table : String}

/-- A write is compiled if there is a first row and every row fits its columns. -/
theorem exists_write_iff (named : q.index = some table) (rows : List (List (String × Param))) :
    (∃ s, q.write tablePrefix verb rows = .ok s) ↔
      ∃ first, rows.head? = some first ∧ ∀ row ∈ rows, Fits (first.map (·.1)) row := by
  cases rows with
  | nil =>
    rw [write_nil named]
    simp
  | cons first rest =>
    rw [write_cons named, List.head?_cons]
    constructor
    · rintro ⟨s, compiled⟩
      cases tuples : alignFrom verb (first.map (·.1)) 0 (first :: rest) with
      | error e =>
        rw [tuples] at compiled
        cases compiled
      | ok values => exact ⟨first, rfl, (alignFrom_eq_ok_iff.mp tuples).1⟩
    · rintro ⟨_, ⟨⟩, fits⟩
      rw [alignFrom_eq_ok_iff.mpr ⟨fits, rfl⟩]
      exact ⟨_, rfl⟩

/-- The parameters of a compiled write are, row after row, the first values of the columns. -/
theorem of_write (named : q.index = some table) {rows : List (List (String × Param))}
    {first : List (String × Param)} {s : Statement} (head : rows.head? = some first)
    (compiled : q.write tablePrefix verb rows = .ok s) :
    s.sql = writeText verb (tablePrefix ++ table) (first.map (·.1)) rows.length ∧
      s.params = (rows.map fun row => (first.map (·.1)).map (firstValue row)).flatten := by
  obtain ⟨rest, rfl⟩ := List.head?_eq_some_iff.mp head
  have fits : ∀ row ∈ first :: rest, Fits (first.map (·.1)) row := by
    obtain ⟨_, ⟨⟩, fits⟩ := (exists_write_iff named _).mp ⟨s, compiled⟩
    exact fits
  have uniform : ∀ values ∈ (first :: rest).map fun row => (first.map (·.1)).map (firstValue row),
      values.length = (first.map (·.1)).length := by
    intro values mem
    obtain ⟨row, -, rfl⟩ := List.mem_map.mp mem
    rw [List.length_map]
  obtain ⟨_, written, sql, params⟩ :=
    exists_write_of_alignFrom named (alignFrom_eq_ok_iff.mpr ⟨fits, rfl⟩) uniform
  cases compiled.symm.trans written
  exact ⟨by rw [sql, List.length_map], params⟩

/-! ## Distinct columns -/

theorem fits_of_perm (h : (row.map (·.1)).Perm columns) : Fits columns row := by
  refine ⟨?_, fun column mem => h.mem_iff.mpr mem⟩
  rw [← h.length_eq, List.length_map]

/-- A row that fits distinct columns has these columns and no others. -/
theorem fits_iff_perm (distinct : columns.Nodup) :
    Fits columns row ↔ (row.map (·.1)).Perm columns := by
  refine ⟨fun ⟨length, within⟩ => ?_, fits_of_perm⟩
  refine ((List.subperm_of_subset distinct within).perm_of_length_le ?_).symm
  rw [List.length_map, length]

/-- Whether the first row, if there is one, has the given columns. -/
def HasColumns (columns : List String) (rows : List (List (String × Param))) : Prop :=
  ∀ first, rows.head? = some first → first.map (·.1) = columns

/-- A write takes exactly the rows that carry the columns of the first one. -/
def TakesExactly (tablePrefix : String) (verb : WriteVerb) (q : Query)
    (rows : List (List (String × Param))) : Prop :=
  (∃ s, q.write tablePrefix verb rows = .ok s) ↔
    ∃ first, rows.head? = some first ∧ ∀ row ∈ rows, (row.map (·.1)).Perm (first.map (·.1))

/-- A write that is compiled lists the columns of the first row once and writes the cells of every
row, each of them once and under its own column. -/
def WritesEveryCell (tablePrefix : String) (verb : WriteVerb) (q : Query) (table : String)
    (rows : List (List (String × Param))) : Prop :=
  ∀ first s, rows.head? = some first → q.write tablePrefix verb rows = .ok s →
    s.sql = writeText verb (tablePrefix ++ table) (first.map (·.1)) rows.length ∧
    ∃ aligned : List (List (String × Param)),
      List.Forall₂ (fun row cells => cells.Perm row ∧ cells.map (·.1) = first.map (·.1))
        rows aligned ∧
      s.params = (aligned.map (·.map (·.2))).flatten

theorem takesExactly_of_nodup (named : q.index = some table)
    {rows : List (List (String × Param))} (under : HasColumns columns rows)
    (distinct : columns.Nodup) : TakesExactly tablePrefix verb q rows := by
  unfold TakesExactly
  rw [exists_write_iff named]
  constructor
  · rintro ⟨first, head, fits⟩
    rw [← under first head] at distinct
    exact ⟨first, head, fun row mem => (fits_iff_perm distinct).mp (fits row mem)⟩
  · rintro ⟨first, head, perm⟩
    exact ⟨first, head, fun row mem => fits_of_perm (perm row mem)⟩

theorem writesEveryCell_of_nodup (named : q.index = some table)
    {rows : List (List (String × Param))} (under : HasColumns columns rows)
    (distinct : columns.Nodup) : WritesEveryCell tablePrefix verb q table rows := by
  intro first s head compiled
  rw [← under first head] at distinct
  obtain ⟨sql, params⟩ := of_write named head compiled
  refine ⟨sql, ?_⟩
  have fits : ∀ row ∈ rows, Fits (first.map (·.1)) row := by
    obtain ⟨other, head', fits⟩ := (exists_write_iff named rows).mp ⟨s, compiled⟩
    cases head.symm.trans head'
    exact fits
  have tuples : alignFrom verb (first.map (·.1)) 0 rows =
      .ok (rows.map fun row => (first.map (·.1)).map (firstValue row)) :=
    alignFrom_eq_ok_iff.mpr ⟨fits, rfl⟩
  obtain ⟨aligned, matched, values⟩ := aligned_of_alignFrom distinct tuples
  exact ⟨aligned, matched, by rw [params, values]⟩

/-! ## A column that stands twice -/

/-- A row whose first cell of a column is the only one with its value. -/
theorem exists_first_differs {column : String} (twice : 2 ≤ columns.count column) :
    ∃ row : List (String × Param), row.map (·.1) = columns ∧ firstValue row column = .null ∧
      (row.map (·.2)).count .null = 1 := by
  obtain ⟨before, after, rfl, first⟩ :=
    List.eq_append_cons_of_mem (List.count_pos_iff.mp (Nat.lt_of_lt_of_le Nat.two_pos twice))
  refine ⟨before.map (·, .bool true) ++ (column, .null) :: after.map (·, .bool true), ?_, ?_, ?_⟩
  · simp [Function.comp_def]
  · have none : (before.map fun name => (name, Param.bool true)).find? (·.1 = column) = none := by
      rw [find?_eq_none_iff]
      simpa [Function.comp_def] using first
    simp [firstValue, List.find?_append, none]
  · have others (names : List String) :
        ((names.map fun name => (name, Param.bool true)).map (·.2)).count .null = 0 := by
      simp [List.count_eq_zero]
    rw [List.map_append, List.map_cons, List.count_append, List.count_cons_self, others, others]

/-- Of a row with a column that stands twice one value may be written twice and another one not at
all. -/
theorem not_writesEveryCell (named : q.index = some table) {column : String}
    (twice : 2 ≤ columns.count column) :
    ∃ row : List (String × Param), row.map (·.1) = columns ∧
      ¬ WritesEveryCell tablePrefix verb q table [row] := by
  obtain ⟨row, rfl, first, once⟩ := exists_first_differs twice
  refine ⟨row, rfl, fun every => ?_⟩
  have fits : ∀ r ∈ [row], Fits (row.map (·.1)) r := by
    intro r mem
    rw [List.mem_singleton.mp mem]
    exact fits_of_perm (.refl _)
  obtain ⟨s, compiled⟩ : ∃ s, q.write tablePrefix verb [row] = .ok s :=
    (exists_write_iff named [row]).mpr ⟨row, rfl, fits⟩
  obtain ⟨-, aligned, matched, params⟩ := every row s rfl compiled
  obtain ⟨cells, perm, rfl⟩ : ∃ cells, cells.Perm row ∧ aligned = [cells] := by
    cases matched with
    | cons cell rest =>
      cases rest
      exact ⟨_, cell.1, rfl⟩
  -- the values are those of the row in one order and the first values in another
  have values : (row.map (·.1)).map (firstValue row) = cells.map (·.2) := by
    have written := (of_write named rfl compiled).2
    rw [params] at written
    simpa using written.symm
  have at_least : 2 ≤ ((row.map (·.1)).map (firstValue row)).count .null := by
    rw [← first]
    exact Nat.le_trans twice (List.count_le_count_map ..)
  rw [values, (perm.map _).count_eq, once] at at_least
  omega

/-- A row of nulls under the given names. -/
def nulls (names : List String) : List (String × Param) := names.map (·, .null)

theorem names_nulls (names : List String) : (nulls names).map (·.1) = names := by
  simp [nulls, Function.comp_def]

/-- A row may have a cell of another name in the place of a column's second one. -/
theorem not_takesExactly (named : q.index = some table) {column : String}
    (twice : 2 ≤ columns.count column) :
    ∃ first other : List (String × Param), first.map (·.1) = columns ∧
      ¬ TakesExactly tablePrefix verb q [first, other] := by
  obtain ⟨fresh, unlisted⟩ := Infinite.exists_notMem_finset columns.toFinset
  rw [List.mem_toFinset] at unlisted
  have listed : column ∈ columns := List.count_pos_iff.mp (Nat.lt_of_lt_of_le Nat.two_pos twice)
  refine ⟨nulls columns, nulls (fresh :: columns.erase column), names_nulls columns, ?_⟩
  intro exactly
  have others : ∀ name ∈ columns, name ∈ columns.erase column := by
    intro name mem
    by_cases eq : name = column
    · rw [eq, ← List.count_pos_iff, List.count_erase_self]
      omega
    · exact (List.mem_erase_of_ne eq).mpr mem
  have fits : ∀ row ∈ [nulls columns, nulls (fresh :: columns.erase column)], Fits columns row := by
    intro row mem
    rcases List.mem_cons.mp mem with rfl | mem
    · exact fits_of_perm (.of_eq (names_nulls columns))
    · rw [List.mem_singleton.mp mem]
      refine ⟨?_, fun name mem => ?_⟩
      · have some_column := List.length_pos_of_mem listed
        simp only [nulls, List.length_map, List.length_cons, List.length_erase_of_mem listed]
        omega
      · rw [names_nulls]
        exact List.mem_cons_of_mem fresh (others name mem)
  have taken : ∃ s, q.write tablePrefix verb
      [nulls columns, nulls (fresh :: columns.erase column)] = .ok s :=
    (exists_write_iff named _).mpr ⟨nulls columns, rfl, by rwa [names_nulls]⟩
  obtain ⟨_, ⟨⟩, perm⟩ := exactly.mp taken
  have same := perm _ (List.mem_cons_of_mem _ List.mem_cons_self)
  rw [names_nulls, names_nulls] at same
  exact unlisted (same.mem_iff.mp List.mem_cons_self)

/-! ## Which columns are safe -/

theorem exists_two_le_count (repeated : ¬ columns.Nodup) : ∃ column, 2 ≤ columns.count column := by
  obtain ⟨column, duplicate⟩ := List.exists_duplicate_iff_not_nodup.mpr repeated
  exact ⟨column, List.duplicate_iff_two_le_count.mp duplicate⟩

theorem forall_takesExactly_iff_nodup (tablePrefix : String) (verb : WriteVerb)
    (named : q.index = some table) (columns : List String) :
    (∀ rows, HasColumns columns rows → TakesExactly tablePrefix verb q rows) ↔ columns.Nodup := by
  constructor
  · intro exactly
    by_contra repeated
    obtain ⟨column, twice⟩ := exists_two_le_count repeated
    obtain ⟨first, other, names, refuted⟩ := not_takesExactly named twice
    refine refuted (exactly [first, other] ?_)
    rintro _ ⟨⟩
    exact names
  · intro distinct rows under
    exact takesExactly_of_nodup named under distinct

theorem forall_writesEveryCell_iff_nodup (tablePrefix : String) (verb : WriteVerb)
    (named : q.index = some table) (columns : List String) :
    (∀ rows, HasColumns columns rows → WritesEveryCell tablePrefix verb q table rows) ↔
      columns.Nodup := by
  constructor
  · intro every
    by_contra repeated
    obtain ⟨column, twice⟩ := exists_two_le_count repeated
    obtain ⟨row, names, refuted⟩ := not_writesEveryCell named twice
    refine refuted (every [row] ?_)
    rintro _ ⟨⟩
    exact names
  · intro distinct rows under
    exact writesEveryCell_of_nodup named under distinct

/-- **Rows are taken and written faithfully exactly if no column stands twice.** A write is compiled
if it has a first row and every row has as many cells and a cell for each of its columns; it then
writes the first value of each column. For the rows of given columns that is to take the rows with
the same columns, and to write each of their cells once, if and only if the columns are distinct. -/
theorem write_faithful_iff_nodup (tablePrefix : String) (verb : WriteVerb) {q : Query}
    {table : String} (named : q.index = some table) :
    (∀ rows, (∃ s, q.write tablePrefix verb rows = .ok s) ↔
      ∃ first, rows.head? = some first ∧ ∀ row ∈ rows, Fits (first.map (·.1)) row) ∧
    (∀ rows first s, rows.head? = some first → q.write tablePrefix verb rows = .ok s →
      s.sql = writeText verb (tablePrefix ++ table) (first.map (·.1)) rows.length ∧
      s.params = (rows.map fun row => (first.map (·.1)).map (firstValue row)).flatten) ∧
    ∀ columns : List String,
      ((∀ rows, HasColumns columns rows → TakesExactly tablePrefix verb q rows) ↔
        columns.Nodup) ∧
      ((∀ rows, HasColumns columns rows → WritesEveryCell tablePrefix verb q table rows) ↔
        columns.Nodup) := by
  refine ⟨exists_write_iff named, fun rows first s => of_write named, fun columns => ⟨?_, ?_⟩⟩
  · exact forall_takesExactly_iff_nodup tablePrefix verb named columns
  · exact forall_writesEveryCell_iff_nodup tablePrefix verb named columns

/-- Two columns in another order are taken, and the values follow the columns of the first row. -/
theorem write_faithful_iff_nodup_reordered :
    let q : Query := { index := some "items" }
    let rows : List (List (String × Param)) :=
      [[("id", .integer 1), ("title", .null)], [("title", .bool true), ("id", .integer 2)]]
    (∃ s, q.write "" .replace rows = .ok s) ∧ TakesExactly "" .replace q rows ∧
      WritesEveryCell "" .replace q "items" rows := by
  intro q rows
  have named : q.index = some "items" := rfl
  have whole := write_faithful_iff_nodup "" .replace named
  have distinct : ["id", "title"].Nodup := by decide
  have under : HasColumns ["id", "title"] rows := by
    rintro _ ⟨⟩
    rfl
  refine ⟨(whole.1 rows).mpr ⟨_, rfl, by decide⟩, ?_, ?_⟩
  · exact (whole.2.2 ["id", "title"]).1.mpr distinct rows under
  · exact (whole.2.2 ["id", "title"]).2.mpr distinct rows under

/-- A column that stands twice: the second row has a cell of another column in its place and is
taken, the value 4 is written nowhere, and 3 is written twice. -/
theorem not_faithful_repeated :
    let q : Query := { index := some "t" }
    let rows : List (List (String × Param)) :=
      [[("a", .integer 1), ("a", .integer 2)], [("a", .integer 3), ("b", .integer 4)]]
    (q.write "" .insert rows).map (fun s => (s.sql, s.params)) =
        .ok ("INSERT INTO t (a, a) VALUES (?, ?), (?, ?)",
          [.integer 1, .integer 1, .integer 3, .integer 3]) ∧
      ¬ TakesExactly "" .insert q rows ∧ ¬ WritesEveryCell "" .insert q "t" rows := by
  intro q rows
  have written : (q.write "" .insert rows).map (fun s => (s.sql, s.params)) =
      .ok ("INSERT INTO t (a, a) VALUES (?, ?), (?, ?)",
        [.integer 1, .integer 1, .integer 3, .integer 3]) := by
    decide +kernel
  obtain ⟨s, compiled⟩ : ∃ s, q.write "" .insert rows = .ok s :=
    (exists_write_iff rfl rows).mpr ⟨_, rfl, by decide⟩
  have params : s.params = [.integer 1, .integer 1, .integer 3, .integer 3] := by
    rw [compiled] at written
    exact (Prod.mk.inj (Except.ok.inj written)).2
  refine ⟨written, fun exactly => ?_, fun every => ?_⟩
  · obtain ⟨_, ⟨⟩, perm⟩ := exactly.mp ⟨s, compiled⟩
    have second := perm _ (List.mem_cons_of_mem _ List.mem_cons_self)
    exact absurd second (by decide)
  · obtain ⟨-, aligned, matched, values⟩ := every _ s rfl compiled
    obtain ⟨cells, rest, ⟨perm, -⟩, -, rfl⟩ := List.forall₂_cons_left_iff.mp matched
    have kept : Param.integer 2 ∈ s.params := by
      rw [values]
      have mem : ("a", Param.integer 2) ∈ cells := perm.mem_iff.mpr (by decide)
      simp only [List.map_cons, List.flatten_cons, List.mem_append]
      exact .inl (List.mem_map_of_mem mem)
    rw [params] at kept
    exact absurd kept (by decide)

end SearchQL.Query
