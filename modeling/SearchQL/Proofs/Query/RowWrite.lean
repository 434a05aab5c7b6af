import Mathlib.Data.List.Sort
import SearchQL.Connection.Operation
import SearchQL.Proofs.Query.Alignment
import SearchQL.Proofs.Query.Conversion

/-!
# Row writes — several rows in one statement, or none of them

A write of rows is refused as a whole or sent as a whole, in one statement. It is
refused for one of four reasons, looked for in this order: a cell that cannot be
bound, a query without an index, no rows, and a row whose columns are not those
of the first row. The first cell or row of its kind is the one reported.

The rows are objects, so their columns stand in ascending order, each once
(`Fields.Ordered`). Two such rows with the same columns have them in the same
order (`names_eq_of_same`), and the values of a row that is aligned are its cells
as they stand. The parameters of the statement are then all the cells, row after
row, and `getElem?_flatten_uniform` finds the one of a row and a column.
-/

namespace SearchQL

/-! ## Columns -/

namespace Fields

variable {α : Type}

/-- The names of fields, in their order. -/
def names (fields : Fields α) : List String := fields.map (·.1)

/-- Whether two sets of fields have the same names, in whatever order. -/
def SameNames (first other : Fields α) : Prop := ∀ name, name ∈ first.names ↔ name ∈ other.names

theorem sameNames_iff {first other : Fields α} :
    first.SameNames other ↔ first.names ⊆ other.names ∧ other.names ⊆ first.names :=
  ⟨fun same => ⟨fun name => (same name).mp, fun name => (same name).mpr⟩,
    fun ⟨left, right⟩ _ => ⟨fun mem => left mem, fun mem => right mem⟩⟩

instance (first other : Fields α) : Decidable (first.SameNames other) :=
  decidable_of_iff _ sameNames_iff.symm

theorem Ordered.pairwise_names {fields : Fields α} (h : fields.Ordered) :
    fields.names.Pairwise fun a b => a < b :=
  List.pairwise_map.mpr h

theorem Ordered.nodup_names {fields : Fields α} (h : fields.Ordered) : fields.names.Nodup := by
  refine List.Pairwise.imp ?_ h.pairwise_names
  intro a b lt eq
  exact String.lt_irrefl b (eq ▸ lt)

/-- Fields in order with the same names have them in the same places. -/
theorem names_eq_of_same {first other : Fields α} (h : first.Ordered) (h' : other.Ordered)
    (same : first.SameNames other) : other.names = first.names := by
  have perm : other.names.Perm first.names :=
    (List.perm_ext_iff_of_nodup h'.nodup_names h.nodup_names).mpr fun name => (same name).symm
  refine perm.eq_of_pairwise ?_ h'.pairwise_names h.pairwise_names
  intro a b _ _ lt gt
  exact absurd gt (String.lt_asymm lt)

theorem get?_of_mem {fields : Fields α} (distinct : fields.names.Nodup) {name : String} {value : α}
    (mem : (name, value) ∈ fields) : fields.get? name = some value := by
  induction fields with
  | nil => exact absurd mem List.not_mem_nil
  | cons field rest ih =>
    obtain ⟨new, distinct⟩ := List.nodup_cons.mp distinct
    rw [get?]
    rcases List.mem_cons.mp mem with rfl | mem
    · exact if_pos rfl
    · have ne : name ≠ field.1 := by
        rintro rfl
        exact new (List.mem_map.mpr ⟨_, mem, rfl⟩)
      rw [if_neg ne]
      exact ih distinct mem

/-- The field at a place has the name at that place. -/
theorem exists_of_names_getElem? {fields : Fields α} (distinct : fields.names.Nodup) {j : Nat}
    {name : String} (found : fields.names[j]? = some name) :
    ∃ value, fields[j]? = some (name, value) ∧ fields.get? name = some value := by
  rw [names, List.getElem?_map] at found
  obtain ⟨⟨_, value⟩, at_place, rfl⟩ := Option.map_eq_some_iff.mp found
  exact ⟨value, at_place, get?_of_mem distinct (List.mem_of_getElem? at_place)⟩

end Fields

/-! ## Aligned rows -/

namespace Query

/-- The cell of a column that only one cell has. -/
theorem find?_of_mem {row : List (String × Param)} (distinct : (row.map (·.1)).Nodup)
    {cell : String × Param} (mem : cell ∈ row) : row.find? (·.1 = cell.1) = some cell := by
  obtain ⟨before, after, rfl⟩ := List.append_of_mem mem
  refine List.find?_eq_some_iff_append.mpr ⟨decide_eq_true rfl, before, after, rfl, ?_⟩
  rw [List.map_append, List.map_cons] at distinct
  intro earlier mem_before
  have ne : earlier.1 ≠ cell.1 :=
    (List.nodup_append.mp distinct).2.2 _ (List.mem_map_of_mem mem_before) _ List.mem_cons_self
  simpa using ne

/-- A row under its own columns. -/
theorem align?_of_names_eq {columns : List String} (distinct : columns.Nodup)
    {row : List (String × Param)} (names : row.map (·.1) = columns) :
    align? columns row = some (row.map (·.2)) := by
  subst names
  have found : ∀ cell ∈ row, (row.find? (·.1 = cell.1)).map (·.2) = pure cell.2 := by
    intro cell mem
    rw [find?_of_mem distinct mem]
    rfl
  rw [align?, if_pos (List.length_map _).symm, List.mapM_map]
  exact mapM_eq_pure found

/-- A row with other columns. -/
theorem align?_of_not_same {columns : List String} (distinct : columns.Nodup)
    {row : List (String × Param)} (other : ¬ ∀ name, name ∈ columns ↔ name ∈ row.map (·.1)) :
    align? columns row = none := by
  cases found : align? columns row with
  | none => rfl
  | some values =>
    obtain ⟨aligned, perm, rfl, -⟩ := perm_of_align? distinct found
    exact absurd (fun name => (perm.map _).mem_iff) other

variable {verb : WriteVerb} {columns : List String}

theorem alignFrom_of_names_eq (distinct : columns.Nodup) {rows : List (List (String × Param))}
    (names : ∀ row ∈ rows, row.map (·.1) = columns) (number : Nat) :
    alignFrom verb columns number rows = .ok (rows.map (·.map (·.2))) := by
  induction rows generalizing number with
  | nil => rfl
  | cons row rest ih =>
    obtain ⟨first, others⟩ := List.forall_mem_cons.mp names
    rw [alignFrom, align?_of_names_eq distinct first, ih others]
    rfl

/-- The first row that is not aligned is reported, by its number. -/
theorem alignFrom_of_first (distinct : columns.Nodup) {before : List (List (String × Param))}
    (names : ∀ row ∈ before, row.map (·.1) = columns) {row : List (String × Param)}
    (unaligned : align? columns row = none) (after : List (List (String × Param)))
    (number : Nat) :
    alignFrom verb columns number (before ++ row :: after) =
      .error (.request (.unalignedRow verb (number + before.length))) := by
  induction before generalizing number with
  | nil =>
    rw [List.nil_append, alignFrom, unaligned]
    rfl
  | cons earlier rest ih =>
    obtain ⟨first, others⟩ := List.forall_mem_cons.mp names
    rw [List.cons_append, alignFrom, align?_of_names_eq distinct first, ih others,
      List.length_cons, Nat.add_right_comm]
    rfl

end Query

/-! ## Tuples -/

namespace Fragment

theorem params_joined_tuples (tuples : List (List Param)) :
    (joined ", " (tuples.map tuple)).params = tuples.flatten := by
  rw [params_joined, List.flatMap_map, List.flatMap_def]
  congr 1
  exact (List.map_congr_left fun values _ => params_tuple values).trans (List.map_id tuples)

theorem sql_joined_tuples {tuples : List (List Param)} {width : Nat}
    (uniform : ∀ values ∈ tuples, values.length = width) :
    (joined ", " (tuples.map tuple)).sql =
      ", ".intercalate (List.replicate tuples.length (tupleText width)) := by
  have same : (tuples.map tuple).map sql = List.replicate tuples.length (tupleText width) := by
    rw [List.map_map]
    refine List.map_eq_replicate_iff.mpr fun values mem => ?_
    rw [Function.comp_apply, sql_tuple, uniform values mem]
  rw [sql_joined, same]

end Fragment

/-- In lists of one length after each other, the place of an item is that of its list, that many
times the length, and its own. -/
theorem getElem?_flatten_uniform {α : Type} {width : Nat} {lists : List (List α)}
    (uniform : ∀ l ∈ lists, l.length = width) (i : Nat) {j : Nat} (lt : j < width) :
    lists.flatten[i * width + j]? = lists[i]?.bind (·[j]?) := by
  induction lists generalizing i with
  | nil => rfl
  | cons first rest ih =>
    obtain ⟨length, uniform⟩ := List.forall_mem_cons.mp uniform
    rw [List.flatten_cons]
    cases i with
    | zero =>
      rw [Nat.zero_mul, Nat.zero_add, List.getElem?_append_left (length ▸ lt)]
      rfl
    | succ i =>
      have beyond : (i + 1) * width + j = first.length + (i * width + j) := by
        rw [length, Nat.succ_mul]
        omega
      rw [beyond, List.getElem?_append_right (Nat.le_add_right _ _), Nat.add_sub_cancel_left,
        ih uniform, List.getElem?_cons_succ]

theorem length_flatten_uniform {α : Type} {width : Nat} {lists : List (List α)}
    (uniform : ∀ l ∈ lists, l.length = width) : lists.flatten.length = lists.length * width := by
  have widths : lists.map List.length = List.replicate lists.length width :=
    List.map_eq_replicate_iff.mpr uniform
  rw [List.length_flatten, widths, List.sum_replicate_nat]

/-! ## The statement of a write -/

namespace Query

/-- The text of a write of rows: the columns once, and a tuple for each row. -/
def writeText (verb : WriteVerb) (table : String) (columns : List String) (rows : Nat) : String :=
  verb.keyword ++ " INTO " ++ table ++ " (" ++ ", ".intercalate columns ++ ") VALUES " ++
    ", ".intercalate (List.replicate rows (Fragment.tupleText columns.length))

variable {tablePrefix : String} {verb : WriteVerb} {q : Query} {table : String}

theorem write_of_noIndex (missing : q.index = none) (rows : List (List (String × Param))) :
    q.write tablePrefix verb rows = .error (.request .noIndex) := by
  rw [write, target, missing]
  rfl

theorem write_nil (named : q.index = some table) :
    q.write tablePrefix verb [] = .error (.request (.noRows verb)) := by
  rw [write, target, named]
  rfl

theorem write_cons (named : q.index = some table) (first : List (String × Param))
    (rest : List (List (String × Param))) :
    q.write tablePrefix verb (first :: rest) =
      (alignFrom verb (first.map (·.1)) 0 (first :: rest)).map fun tuples =>
        { fragment := .text (verb.keyword ++ " INTO " ++ (tablePrefix ++ table) ++ " (" ++
            ", ".intercalate (first.map (·.1)) ++ ") VALUES ") ::
            Fragment.joined ", " (tuples.map Fragment.tuple) } := by
  rw [write, target, named]
  rfl

/-- Rows that are aligned are one statement, and its parameters are their tuples. -/
theorem exists_write_of_alignFrom (named : q.index = some table) {first : List (String × Param)}
    {rest : List (List (String × Param))} {tuples : List (List Param)}
    (aligned : alignFrom verb (first.map (·.1)) 0 (first :: rest) = .ok tuples)
    (uniform : ∀ values ∈ tuples, values.length = (first.map (·.1)).length) :
    ∃ s, q.write tablePrefix verb (first :: rest) = .ok s ∧
      s.sql = writeText verb (tablePrefix ++ table) (first.map (·.1)) tuples.length ∧
      s.params = tuples.flatten := by
  rw [write_cons named, aligned]
  refine ⟨_, rfl, ?_, ?_⟩
  · rw [Statement.sql, Fragment.sql_cons, Fragment.sql_joined_tuples uniform]
    rfl
  · rw [Statement.params, Fragment.params_text_cons, Fragment.params_joined_tuples]

/-- Rows with the columns of the first are one statement, and its parameters are their cells. -/
theorem exists_write_of_names_eq (named : q.index = some table) {columns : List String}
    (distinct : columns.Nodup) {rows : List (List (String × Param))} (some_row : rows ≠ [])
    (names : ∀ row ∈ rows, row.map (·.1) = columns) :
    ∃ s, q.write tablePrefix verb rows = .ok s ∧
      s.sql = writeText verb (tablePrefix ++ table) columns rows.length ∧
      s.params = (rows.map (·.map (·.2))).flatten := by
  obtain ⟨first, rest, rfl⟩ := List.exists_cons_of_ne_nil some_row
  obtain rfl : first.map (·.1) = columns := names first List.mem_cons_self
  have uniform : ∀ values ∈ (first :: rest).map (·.map (·.2)),
      values.length = (first.map (·.1)).length := by
    intro values mem
    obtain ⟨row, mem_row, rfl⟩ := List.mem_map.mp mem
    rw [List.length_map, ← names row mem_row, List.length_map]
  obtain ⟨s, written, sql, params⟩ :=
    exists_write_of_alignFrom named (alignFrom_of_names_eq distinct names 0) uniform
  exact ⟨s, written, by rw [sql, List.length_map], params⟩

/-- The first row with other columns refuses the rows. -/
theorem write_of_first (named : q.index = some table) {first : List (String × Param)}
    {rest before after : List (List (String × Param))} {row : List (String × Param)}
    (distinct : (first.map (·.1)).Nodup) (split : first :: rest = before ++ row :: after)
    (names : ∀ earlier ∈ before, earlier.map (·.1) = first.map (·.1))
    (other : ¬ ∀ name, name ∈ first.map (·.1) ↔ name ∈ row.map (·.1)) :
    q.write tablePrefix verb (first :: rest) =
      .error (.request (.unalignedRow verb before.length)) := by
  rw [write_cons named, split, alignFrom_of_first distinct names
    (align?_of_not_same distinct other), Nat.zero_add]
  rfl

/-! ## The exchange of a write -/

/-- What comes of writing rows through a link. A write that is refused leaves the link as it was. -/
structure Written (tablePrefix : String) (q : Query) (verb : WriteVerb) (rows : List Row)
    (link : Link) (e : Exchange Answer) : Prop where
  /-- The first cell that cannot be bound, by rows and then by columns, refuses the write. -/
  unbound : ∀ before row after left name value right,
    rows = before ++ row :: after → row = left ++ (name, value) :: right →
    (∀ earlier ∈ before, ∀ cell ∈ earlier, cell.2.Bindable) →
    (∀ cell ∈ left, cell.2.Bindable) → ¬ value.Bindable →
    ∃ text fault, Param.ofValue value = .error (.decode text fault) ∧
      e = ⟨link, .error (.decode text fault), []⟩
  noIndex : (∀ row ∈ rows, ∀ cell ∈ row, cell.2.Bindable) → q.index = none →
    e = ⟨link, .error (.request .noIndex), []⟩
  noRows : ∀ table, q.index = some table → rows = [] →
    e = ⟨link, .error (.request (.noRows verb)), []⟩
  /-- The first row whose columns are not those of the first row refuses the write. -/
  unaligned : (∀ row ∈ rows, ∀ cell ∈ row, cell.2.Bindable) →
    ∀ table first rest before row after, q.index = some table → rows = first :: rest →
    rows = before ++ row :: after → (∀ earlier ∈ before, first.SameNames earlier) →
    ¬ first.SameNames row →
    e = ⟨link, .error (.request (.unalignedRow verb before.length)), []⟩
  /-- A write that is not refused is one statement, and its parameters are all the cells. -/
  sent : (∀ row ∈ rows, ∀ cell ∈ row, cell.2.Bindable) →
    ∀ table first rest r, q.index = some table → rows = first :: rest →
    (∀ row ∈ rows, first.SameNames row) → link = .recording r →
    ∃ params,
      e.link = .recording { r with log := r.log ++
        [⟨.affected, writeText verb (tablePrefix ++ table) first.names rows.length, params⟩] } ∧
      params.length = rows.length * first.length ∧
      (rows.flatten.mapM fun cell => Param.ofValue cell.2) = .ok params ∧
      ∀ i row j name, rows[i]? = some row → first.names[j]? = some name →
        ∃ value p, row.get? name = some value ∧ Param.ofValue value = .ok p ∧
          params[i * first.length + j]? = some p

theorem write_plan_of_not_bound (q : Query) {rows : List Row} {e : Error}
    (failed : rows.mapM Param.ofRow = .error e) :
    q.terminalPlan tablePrefix (.write verb rows) = .fail e := by
  rw [terminalPlan, failed]
  rfl

theorem write_plan_of_refused {rows : List Row}
    (bindable : ∀ row ∈ rows, ∀ cell ∈ row, cell.2.Bindable) {e : Error}
    (refused : q.write tablePrefix verb (rows.map Param.boundRow) = .error e) :
    q.terminalPlan tablePrefix (.write verb rows) = .fail e := by
  rw [terminalPlan, Param.mapM_ofRow_of_bindable bindable]
  show Plan.after (q.write tablePrefix verb (rows.map Param.boundRow)) _ = _
  rw [refused]
  rfl

theorem write_plan_of_compiled {rows : List Row}
    (bindable : ∀ row ∈ rows, ∀ cell ∈ row, cell.2.Bindable) {s : Statement}
    (compiled : q.write tablePrefix verb (rows.map Param.boundRow) = .ok s) :
    q.terminalPlan tablePrefix (.write verb rows) =
      .execute (request (writeKind verb) s) .number := by
  rw [terminalPlan, Param.mapM_ofRow_of_bindable bindable]
  show Plan.after (q.write tablePrefix verb (rows.map Param.boundRow)) _ = _
  rw [compiled]
  rfl

theorem map_fst_boundRow (row : Row) : (Param.boundRow row).map (·.1) = row.names := by
  rw [Param.boundRow, List.map_map]
  rfl

/-- Rows that have the columns of a first row have them in the same places. -/
theorem names_boundRow {rows : List Row} {first : Row} (ordered : Fields.Ordered first)
    (objects : ∀ row ∈ rows, Fields.Ordered row) (same : ∀ row ∈ rows, first.SameNames row) :
    ∀ cells ∈ rows.map Param.boundRow, cells.map (·.1) = (Param.boundRow first).map (·.1) := by
  intro cells mem
  obtain ⟨row, mem_row, rfl⟩ := List.mem_map.mp mem
  rw [map_fst_boundRow, map_fst_boundRow]
  exact Fields.names_eq_of_same ordered (objects row mem_row) (same row mem_row)

/-- The parameters of rows are those of their cells, row after row. -/
theorem flatten_boundRow (rows : List Row) :
    ((rows.map Param.boundRow).map (·.map (·.2))).flatten =
      rows.flatten.map fun cell => Param.bound cell.2 := by
  rw [List.map_map, List.map_flatten]
  refine congrArg List.flatten (List.map_congr_left fun row _ => ?_)
  exact List.map_map

/-- Rows that have the columns of a first row are one statement. -/
theorem exists_write_of_same (tablePrefix : String) (verb : WriteVerb)
    (named : q.index = some table) {rows : List Row} {first : Row} (some_row : rows ≠ [])
    (ordered : Fields.Ordered first) (objects : ∀ row ∈ rows, Fields.Ordered row)
    (same : ∀ row ∈ rows, first.SameNames row) :
    ∃ s, q.write tablePrefix verb (rows.map Param.boundRow) = .ok s ∧
      s.sql = writeText verb (tablePrefix ++ table) first.names rows.length ∧
      s.params = rows.flatten.map fun cell => Param.bound cell.2 := by
  have distinct : ((Param.boundRow first).map (·.1)).Nodup := by
    rw [map_fst_boundRow]
    exact ordered.nodup_names
  obtain ⟨s, compiled, sql, params⟩ := exists_write_of_names_eq named distinct
    (mt List.map_eq_nil_iff.mp some_row) (names_boundRow ordered objects same)
  rw [List.length_map, map_fst_boundRow] at sql
  rw [flatten_boundRow] at params
  exact ⟨s, compiled, sql, params⟩

/-- **Rows are written as a whole or not at all.** -/
theorem write_rows_whole (tablePrefix : String) (q : Query) (verb : WriteVerb) {rows : List Row}
    (objects : ∀ row ∈ rows, Fields.Ordered row) (link : Link) :
    q.Written tablePrefix verb rows link
      ((q.terminalPlan tablePrefix (.write verb rows)).run link) where
  unbound := by
    rintro before _ after left name value right rfl rfl before_bound left_bound unbound
    obtain ⟨text, fault, failed⟩ := Param.ofValue_of_not_bindable unbound
    have first_row : Param.ofRow (left ++ (name, value) :: right) = .error (.decode text fault) :=
      Param.ofRow_of_first left_bound failed right
    have first := Param.mapM_ofRow_of_first before_bound first_row after
    refine ⟨text, fault, failed, ?_⟩
    rw [write_plan_of_not_bound q first]
    rfl
  noIndex := by
    intro bindable missing
    rw [write_plan_of_refused bindable (write_of_noIndex missing _)]
    rfl
  noRows := by
    rintro table named rfl
    rw [write_plan_of_refused (List.forall_mem_nil _) (write_nil named)]
    rfl
  unaligned := by
    rintro bindable table first rest before row after named rfl split same other
    have ordered : Fields.Ordered first := objects first List.mem_cons_self
    have objects_before : ∀ earlier ∈ before, Fields.Ordered earlier := by
      intro earlier mem
      exact objects earlier (split ▸ List.mem_append_left _ mem)
    have split_bound : Param.boundRow first :: rest.map Param.boundRow =
        before.map Param.boundRow ++ Param.boundRow row :: after.map Param.boundRow := by
      rw [← List.map_cons, split, List.map_append, List.map_cons]
    have refused : q.write tablePrefix verb ((first :: rest).map Param.boundRow) =
        .error (.request (.unalignedRow verb before.length)) := by
      rw [List.map_cons, write_of_first named ?_ split_bound
        (names_boundRow ordered objects_before same), List.length_map]
      · rw [map_fst_boundRow, map_fst_boundRow]
        exact other
      · rw [map_fst_boundRow]
        exact ordered.nodup_names
    rw [write_plan_of_refused bindable refused]
    rfl
  sent := by
    rintro bindable table first rest r named rfl same rfl
    have ordered : Fields.Ordered first := objects first List.mem_cons_self
    have width : ∀ row ∈ first :: rest, row.length = first.length := by
      intro row mem
      have names := Fields.names_eq_of_same ordered (objects row mem) (same row mem)
      simpa [Fields.names] using congrArg List.length names
    obtain ⟨s, compiled, sql, params⟩ := exists_write_of_same tablePrefix verb named
      (List.cons_ne_nil first rest) ordered objects same
    refine ⟨s.params, ?_, ?_, ?_, ?_⟩
    · rw [write_plan_of_compiled bindable compiled, ← sql]
      rfl
    · rw [params, List.length_map, length_flatten_uniform width]
    · rw [params]
      refine mapM_eq_pure fun cell mem => ?_
      obtain ⟨row, mem_row, mem_cell⟩ := List.mem_flatten.mp mem
      exact Param.ofValue_of_bindable (bindable row mem_row cell mem_cell)
    · intro i row j name row_i name_j
      have mem_row := List.mem_of_getElem? row_i
      rw [← Fields.names_eq_of_same ordered (objects row mem_row) (same row mem_row)] at name_j
      obtain ⟨value, cell_j, under_name⟩ :=
        Fields.exists_of_names_getElem? (objects row mem_row).nodup_names name_j
      have bound := Param.ofValue_of_bindable
        (bindable row mem_row _ (List.mem_of_getElem? cell_j))
      have lt : j < first.length := by
        rw [← width row mem_row]
        exact (List.getElem?_eq_some_iff.mp cell_j).1
      refine ⟨value, _, under_name, bound, ?_⟩
      rw [params, List.getElem?_map, getElem?_flatten_uniform width i lt, row_i]
      show (row[j]?).map _ = _
      rw [cell_j]
      rfl

/-- Two rows of two columns are one statement with four parameters. With a third row of as many
columns, but not the same, nothing is sent. -/
theorem write_rows_whole_three :
    let q : Query := { index := some "items" }
    let first : Row := [("id", .number (.integer 1)), ("tags", .array [.number (.integer 7)])]
    let second : Row := [("id", .number (.integer 2)), ("tags", .array [])]
    let third : Row := [("id", .number (.integer 3)), ("title", .null)]
    let write := fun rows =>
      (q.terminalPlan "rt_" (.write .insert rows)).run (.recording {})
    (write [first, second]).link = .recording { log := [⟨.affected,
      "INSERT INTO rt_items (id, tags) VALUES (?, ?), (?, ?)",
      [.integer 1, .multi [7], .integer 2, .multi []]⟩] } ∧
    write [first, second, third] =
      ⟨.recording {}, .error (.request (.unalignedRow .insert 2)), []⟩ := by
  intro q first second third write
  have before_tags : "id" < "tags" := by decide +kernel
  have before_title : "id" < "title" := by decide +kernel
  have objects : ∀ row ∈ [first, second, third], Fields.Ordered row :=
    List.forall_mem_cons.mpr ⟨List.pairwise_pair.mpr before_tags,
      List.forall_mem_cons.mpr ⟨List.pairwise_pair.mpr before_tags,
        List.forall_mem_singleton.mpr (List.pairwise_pair.mpr before_title)⟩⟩
  have bindable : ∀ row ∈ [first, second, third], ∀ cell ∈ row, cell.2.Bindable := by
    decide +kernel
  have same : ∀ row ∈ [first, second], first.SameNames row := by decide +kernel
  have two : ∀ row ∈ [first, second], row ∈ [first, second, third] :=
    fun row mem => List.mem_append_left [third] mem
  constructor
  · obtain ⟨params, link, -, cells, -⟩ := (write_rows_whole "rt_" q .insert
      (fun row mem => objects row (two row mem)) (.recording {})).sent
      (fun row mem => bindable row (two row mem)) "items" first [second] {} rfl rfl same rfl
    cases cells
    exact link
  · have other : ¬ first.SameNames third := by decide +kernel
    exact (write_rows_whole "rt_" q .insert objects (.recording {})).unaligned bindable "items"
      first [second, third] [first, second] third [] rfl rfl rfl same other

end Query

end SearchQL
