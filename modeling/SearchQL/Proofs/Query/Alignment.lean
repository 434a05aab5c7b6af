import Mathlib.Data.List.Forall2
import Mathlib.Data.List.Nodup
import Mathlib.Data.List.Perm.Subperm
import SearchQL.Proofs.Query.Conversion
import SearchQL.Query.Statement

/-!
# Aligned rows — every row under the columns of the first

A write of rows names its columns once, and the values of each row are put under
them. `aligned_of_alignFrom` says what that does to a row when the columns are
distinct: the row is reordered, and no cell is lost, repeated or moved to
another column.
-/

namespace SearchQL.Query

/-- The values that are found for columns, each with its column again. -/
theorem exists_named {columns : List String} {row : List (String × Param)} {values : List Param}
    (h : (columns.mapM fun column => (row.find? (·.1 = column)).map (·.2)) = some values) :
    ∃ named : List (String × Param), named.map (·.1) = columns ∧ named.map (·.2) = values ∧
      ∀ cell ∈ named, cell ∈ row := by
  induction columns generalizing values with
  | nil =>
    cases h
    exact ⟨[], rfl, rfl, fun _ h => absurd h List.not_mem_nil⟩
  | cons column rest ih =>
    rw [List.mapM_cons] at h
    cases found : row.find? (·.1 = column) with
    | none => simp [found] at h
    | some cell =>
      cases tail : rest.mapM fun column => (row.find? (·.1 = column)).map (·.2) with
      | none => simp [found, tail] at h
      | some others =>
        obtain ⟨named, columns_eq, values_eq, mem⟩ := ih tail
        have whole : cell.2 :: others = values := by simpa [found, tail] using h
        have name : cell.1 = column := by simpa using List.find?_some found
        refine ⟨cell :: named, ?_, ?_, ?_⟩
        · rw [List.map_cons, columns_eq, name]
        · rw [List.map_cons, values_eq, whole]
        · intro c hc
          rcases List.mem_cons.mp hc with rfl | hc
          · exact List.mem_of_find?_eq_some found
          · exact mem c hc

/-- A row with as many cells as there are distinct columns is reordered. -/
theorem perm_of_align? {columns : List String} (distinct : columns.Nodup)
    {row : List (String × Param)} {values : List Param} (h : align? columns row = some values) :
    ∃ aligned : List (String × Param),
      aligned.Perm row ∧ aligned.map (·.1) = columns ∧ aligned.map (·.2) = values := by
  unfold align? at h
  split at h
  · next length_eq =>
    obtain ⟨named, columns_eq, values_eq, mem⟩ := exists_named h
    have cells_distinct : named.Nodup := by
      rw [← columns_eq] at distinct
      exact List.Nodup.of_map _ distinct
    have as_many : row.length = named.length := by
      rw [length_eq, ← columns_eq, List.length_map]
    have perm := (List.subperm_of_subset cells_distinct mem).perm_of_length_le (Nat.le_of_eq as_many)
    exact ⟨named, perm, columns_eq, values_eq⟩
  · cases h

/-- The tuples of a write are its rows, each reordered to the columns. -/
theorem aligned_of_alignFrom {verb : WriteVerb} {columns : List String}
    (distinct : columns.Nodup) {number : Nat} {rows : List (List (String × Param))}
    {tuples : List (List Param)} (h : alignFrom verb columns number rows = .ok tuples) :
    ∃ aligned : List (List (String × Param)),
      List.Forall₂ (fun row cells => cells.Perm row ∧ cells.map (·.1) = columns) rows aligned ∧
        aligned.map (·.map (·.2)) = tuples := by
  induction rows generalizing number tuples with
  | nil =>
    cases h
    exact ⟨[], .nil, rfl⟩
  | cons row rest ih =>
    rw [alignFrom] at h
    cases found : align? columns row with
    | none =>
      rw [found] at h
      cases h
    | some values =>
      rw [found] at h
      obtain ⟨others, tail, rfl⟩ := map_eq_ok_iff.mp h
      obtain ⟨cells, perm, columns_eq, rfl⟩ := perm_of_align? distinct found
      obtain ⟨aligned, matched, rfl⟩ := ih tail
      exact ⟨cells :: aligned, .cons ⟨perm, columns_eq⟩ matched, rfl⟩

/-- A write that compiles has an index and a first row, and aligns every row to its columns. -/
theorem of_write_eq_ok {tablePrefix : String} {verb : WriteVerb} {q : Query}
    {rows : List (List (String × Param))} {s : Statement}
    (h : q.write tablePrefix verb rows = .ok s) :
    ∃ table first rest tuples, q.target tablePrefix = .ok table ∧ rows = first :: rest ∧
      alignFrom verb (first.map (·.1)) 0 rows = .ok tuples ∧
      s = { fragment := .text (verb.keyword ++ " INTO " ++ table ++ " (" ++
              ", ".intercalate (first.map (·.1)) ++ ") VALUES ") ::
              Fragment.joined ", " (tuples.map Fragment.tuple) } := by
  unfold write at h
  cases found : q.target tablePrefix with
  | error e =>
    rw [found] at h
    cases h
  | ok table =>
    cases rows with
    | nil =>
      rw [found] at h
      cases h
    | cons first rest =>
      cases tuples : alignFrom verb (first.map (·.1)) 0 (first :: rest) with
      | error e =>
        rw [found] at h
        simp [bind, Except.bind, tuples] at h
      | ok values =>
        rw [found] at h
        simp only [bind, Except.bind, tuples, pure, Except.pure] at h
        cases h
        exact ⟨table, first, rest, values, rfl, rfl, tuples, rfl⟩

end SearchQL.Query
