import SearchQL.Proofs.Query.Alignment
import SearchQL.Proofs.Query.Rendered
import SearchQL.Proofs.Query.Verbatim

/-!
# Compiling and filling — the same as writing the values in place

`interpolate_compiled` is about all statements of a query: whenever one compiles,
filling its text with its parameters succeeds, and gives the text that is
written down in `SearchQL.Proofs.Query.Rendered` with every value where it
belongs. The texts of the query that are pasted have to be clean; its values,
match texts and option texts may be anything.

The prefix of the connection is pasted too, so it is the prefixed name of the
index that has to be clean. `interpolate_marked_prefix` is what happens otherwise.
-/

namespace SearchQL.Query

open Quoting Fragment

variable {tablePrefix table : String} {q : Query}

/-- Whether a statement, if it compiles, is filled to the text that is rendered for its index. -/
def FillsTo (compiled : Except Error Statement) (target : Except Error String)
    (rendered : String → String) : Prop :=
  ∀ s, compiled = .ok s → ∃ table, target = .ok table ∧
    interpolate s.sql s.params = .ok (rendered table)

/-- Statements with clean texts are filled to their literal reading. -/
theorem fillsTo_of_map {make : String → Statement} {rendered : String → String}
    (clean : ∀ table, q.target tablePrefix = .ok table → CleanTexts (make table).fragment)
    (literal_eq : ∀ table, (make table).fragment.literal = rendered table) :
    FillsTo ((q.target tablePrefix).map make) (q.target tablePrefix) rendered := by
  intro s h
  obtain ⟨table, found, rfl⟩ := map_eq_ok_iff.mp h
  refine ⟨table, found, ?_⟩
  rw [← literal_eq]
  exact interpolate_of_standing (standing_of_cleanTexts (clean table found))

section

variable (clean : ∀ s ∈ q.verbatim tablePrefix, CleanText s)

include clean

theorem cleanText_target (h : q.target tablePrefix = .ok table) : CleanText table := by
  refine clean table ?_
  unfold target at h
  split at h
  · next name found =>
    cases h
    simp [verbatim, found]
  · cases h

theorem cleanTexts_rowFilter : CleanTexts (q.rowFilter.fragment "WHERE") :=
  Filter.cleanTexts_fragment (by decide) q.terms fun s hs => clean s (by simp [verbatim, hs])

theorem cleanTexts_groupFilter : CleanTexts (q.groupFilter.fragment "HAVING") :=
  Filter.cleanTexts_fragment (by decide) [] fun s hs => clean s (by simp [verbatim, hs])

theorem cleanTexts_afterFilter : CleanTexts q.afterFilter := by
  have groups : ∀ s ∈ q.groups, CleanText s := fun s hs => clean s (by simp [verbatim, hs])
  have groupOrder : ∀ key ∈ q.groupOrder, CleanText key.column := fun key hk =>
    clean _ (by simp only [verbatim, List.mem_append, List.mem_map]; grind)
  have order : ∀ key ∈ q.order, CleanText key.column := fun key hk =>
    clean _ (by simp only [verbatim, List.mem_append, List.mem_map]; grind)
  have options : ∀ o ∈ q.options, ∀ s ∈ o.1 :: o.2.verbatim, CleanText s := fun o ho s hs =>
    clean s (by simp only [verbatim, List.mem_append, List.mem_flatMap]; grind)
  have facets : ∀ s ∈ q.facets.map Facet.sql, CleanText s := by
    intro s hs
    obtain ⟨f, hf, rfl⟩ := List.mem_map.mp hs
    exact Facet.cleanText_sql fun t ht =>
      clean t (by simp only [verbatim, List.mem_append, List.mem_flatMap]; grind)
  unfold afterFilter
  refine cleanTexts_append (cleanTexts_append ?_ (cleanTexts_groupFilter clean)) ?_
  · exact cleanTexts_text_cons (cleanText_grouping groups)
      (cleanTexts_text_cons (cleanText_sorting (by decide) groupOrder) cleanTexts_nil)
  · exact cleanTexts_text_cons (cleanText_sorting (by decide) order)
      (cleanTexts_text_cons q.window.cleanText_sql
        (cleanTexts_text_cons (cleanText_optionList options)
          (cleanTexts_text_cons (cleanText_join facets) cleanTexts_nil)))

/-- The query that counts pastes nothing but what the query does, and its one column. -/
theorem clean_counting : ∀ s ∈ q.counting.verbatim tablePrefix, CleanText s := by
  intro s hs
  by_cases column : s = "COUNT(*) AS aggregate"
  · rw [column]
    decide
  · refine clean s ?_
    simp only [verbatim, counting, List.mem_append, List.map_nil, List.flatMap_nil,
      List.not_mem_nil, or_false, List.mem_singleton, column] at hs ⊢
    grind

theorem select_fillsTo :
    FillsTo (q.select tablePrefix) (q.target tablePrefix) q.renderedSelect := by
  rw [select_eq_map]
  refine fillsTo_of_map (fun table found => ?_) fun table => literal_select q table
  have projection := cleanText_projection (q := q) fun s hs => clean s (by simp [verbatim, hs])
  exact cleanTexts_append (cleanTexts_append (cleanTexts_text_cons (cleanText_append
    (cleanText_append (cleanText_append (by decide) projection) (by decide))
    (cleanText_target clean found)) cleanTexts_nil) (cleanTexts_rowFilter clean))
    (cleanTexts_afterFilter clean)

theorem delete_fillsTo :
    FillsTo (q.delete tablePrefix) (q.target tablePrefix) q.renderedDelete := by
  rw [delete_eq_map]
  refine fillsTo_of_map (fun table found => ?_) fun table => literal_delete q table
  exact cleanTexts_append (cleanTexts_text_cons (cleanText_append (by decide)
    (cleanText_target clean found)) cleanTexts_nil) (cleanTexts_rowFilter clean)

theorem truncate_fillsTo :
    FillsTo (q.truncate tablePrefix) (q.target tablePrefix) ("TRUNCATE RTINDEX " ++ ·) := by
  rw [truncate_eq_map]
  refine fillsTo_of_map (fun table found => ?_) fun table => by simp [Piece.literal]
  exact cleanTexts_text_cons (cleanText_append (by decide) (cleanText_target clean found))
    cleanTexts_nil

theorem update_fillsTo {assignments : List (String × Param)}
    (columns : ∀ a ∈ assignments, CleanText a.1) :
    FillsTo (q.update tablePrefix assignments) (q.target tablePrefix)
      (q.renderedUpdate assignments) := by
  rw [update_eq_map]
  split
  · intro s h
    cases h
  · refine fillsTo_of_map (fun table found => ?_) fun table => literal_update q table assignments
    have assigned : CleanTexts (joined ", " (assignments.map assignment)) := by
      refine cleanTexts_joined (by decide) fun f hf => ?_
      obtain ⟨a, ha, rfl⟩ := List.mem_map.mp hf
      exact cleanTexts_text_cons (cleanText_append (columns a ha) (by decide))
        (cleanTexts_value_cons cleanTexts_nil)
    exact cleanTexts_append (cleanTexts_text_cons (cleanText_append (cleanText_append (by decide)
      (cleanText_target clean found)) (by decide)) assigned) (cleanTexts_rowFilter clean)

/-- A write is filled with its rows, each reordered to the columns of the first one. -/
theorem write_fills {verb : WriteVerb} {rows : List (List (String × Param))}
    (columns : ∀ row ∈ rows, ∀ cell ∈ row, CleanText cell.1)
    (distinct : ∀ row ∈ rows, (row.map (·.1)).Nodup) {s : Statement}
    (h : q.write tablePrefix verb rows = .ok s) :
    ∃ table first rest aligned, q.target tablePrefix = .ok table ∧ rows = first :: rest ∧
      List.Forall₂ (fun row cells => cells.Perm row ∧ cells.map (·.1) = first.map (·.1))
        rows aligned ∧
      interpolate s.sql s.params = .ok (renderedWrite verb table (first.map (·.1)) aligned) := by
  obtain ⟨table, first, rest, tuples, found, rfl, aligns, rfl⟩ := of_write_eq_ok h
  obtain ⟨aligned, matched, rfl⟩ :=
    aligned_of_alignFrom (distinct first List.mem_cons_self) aligns
  refine ⟨table, first, rest, aligned, found, rfl, matched, ?_⟩
  have names : ∀ c ∈ first.map (·.1), CleanText c := by
    intro c hc
    obtain ⟨cell, hcell, rfl⟩ := List.mem_map.mp hc
    exact columns first List.mem_cons_self cell hcell
  have keyword : CleanText verb.keyword := by cases verb <;> decide
  rw [← literal_write]
  simp only [List.map_map, Function.comp_def]
  refine interpolate_of_standing (standing_of_cleanTexts (cleanTexts_text_cons ?_ ?_))
  · exact cleanText_append (cleanText_append (cleanText_append (cleanText_append
      (cleanText_append keyword (by decide)) (cleanText_target clean found)) (by decide))
      (cleanText_intercalate (by decide) names)) (by decide)
  · refine cleanTexts_joined (by decide) fun f hf => ?_
    obtain ⟨row, -, rfl⟩ := List.mem_map.mp hf
    exact cleanTexts_tuple _

end

/-- Every statement of a query, once compiled, is filled with its own parameters to the text that
has each value in its place. The texts that are pasted have to be clean, the index behind its
prefix; rows have distinct columns. -/
theorem interpolate_compiled (tablePrefix : String) (q : Query)
    (clean : ∀ s ∈ q.verbatim tablePrefix, CleanText s)
    (verb : WriteVerb) (rows : List (List (String × Param)))
    (columns : ∀ row ∈ rows, ∀ cell ∈ row, CleanText cell.1)
    (distinct : ∀ row ∈ rows, (row.map (·.1)).Nodup)
    (assignments : List (String × Param)) (assigned : ∀ a ∈ assignments, CleanText a.1) :
    FillsTo (q.select tablePrefix) (q.target tablePrefix) q.renderedSelect ∧
    FillsTo (q.count tablePrefix) (q.target tablePrefix) q.counting.renderedSelect ∧
    (∀ s, q.write tablePrefix verb rows = .ok s →
      ∃ table first rest aligned, q.target tablePrefix = .ok table ∧ rows = first :: rest ∧
        List.Forall₂ (fun row cells => cells.Perm row ∧ cells.map (·.1) = first.map (·.1))
          rows aligned ∧
        interpolate s.sql s.params = .ok (renderedWrite verb table (first.map (·.1)) aligned)) ∧
    FillsTo (q.update tablePrefix assignments) (q.target tablePrefix)
      (q.renderedUpdate assignments) ∧
    FillsTo (q.delete tablePrefix) (q.target tablePrefix) q.renderedDelete ∧
    FillsTo (q.truncate tablePrefix) (q.target tablePrefix) ("TRUNCATE RTINDEX " ++ ·) :=
  ⟨select_fillsTo clean, select_fillsTo (clean_counting clean),
    fun _ h => write_fills clean columns distinct h, update_fillsTo clean assigned,
    delete_fillsTo clean, truncate_fillsTo clean⟩

/-- Texts with marks and question marks in every place that takes a value. -/
theorem interpolate_compiled_marks :
    (∃ s, select "rt_"
        { index := some "items"
          terms := [⟨.all, "why?", false⟩]
          filter := [⟨.and, .within "brand" [.text "o'?", .integer 3] true⟩,
            ⟨.or, .multi "tags" .any []⟩]
          options := [("comment", .text "it's?")] } = .ok s ∧
      interpolate s.sql s.params =
        .ok ("SELECT * FROM rt_items WHERE MATCH('(why?)') AND brand NOT IN ('o\\'?', 3)" ++
          " OPTION comment = 'it\\'s?'")) ∧
    ∃ s aligned, write "rt_" .insert { index := some "items" }
        [[("id", .integer 1), ("title", .text "?")], [("title", .text "'"), ("id", .null)]] =
          .ok s ∧
      List.Forall₂ (fun row cells => cells.Perm row ∧ cells.map (·.1) = ["id", "title"])
        [[("id", .integer 1), ("title", .text "?")], [("title", .text "'"), ("id", .null)]]
        aligned ∧
      interpolate s.sql s.params =
        .ok (renderedWrite .insert "rt_items" ["id", "title"] aligned) := by
  have compiled (q : Query) (clean : ∀ s ∈ q.verbatim "rt_", CleanText s) :=
    interpolate_compiled "rt_" q clean .insert
      [[("id", .integer 1), ("title", .text "?")], [("title", .text "'"), ("id", .null)]]
      (by decide) (by decide) [] (by decide)
  constructor
  · let q : Query :=
      { index := some "items"
        terms := [⟨.all, "why?", false⟩]
        filter := [⟨.and, .within "brand" [.text "o'?", .integer 3] true⟩,
          ⟨.or, .multi "tags" .any []⟩]
        options := [("comment", .text "it's?")] }
    obtain ⟨_, found, filled⟩ := (compiled q (by decide)).1 _ rfl
    cases found
    refine ⟨_, rfl, filled.trans (congrArg _ ?_)⟩
    decide +kernel
  · obtain ⟨_, _, _, aligned, found, rows_eq, matched, filled⟩ :=
      (compiled { index := some "items" } (by decide)).2.2.1 _ rfl
    obtain ⟨rfl, rfl⟩ := List.cons.inj rows_eq
    cases found
    exact ⟨_, aligned, rfl, matched, filled⟩

/-- A prefix with a question mark outside quotes takes the place of a value. -/
theorem interpolate_marked_prefix :
    (∀ s ∈ verbatim "" { index := some "items" }, CleanText s) ∧
      ∃ s, select "?" { index := some "items" } = .ok s ∧
        interpolate s.sql s.params = .error (.bindingMismatch 1 0) :=
  ⟨by decide, _, rfl, rfl⟩

end SearchQL.Query
