import Mathlib.Logic.ExistsUnique
import SearchQL.Connection.Operation
import SearchQL.Proofs.Query.Shape

/-!
# Pages — windows that cover a result without gap or overlap

A page is a window: some rows are skipped, and of the next ones so many are
asked for. Pages are counted from one, and page zero is page one. What is
skipped is the product of two words, and one that fits no word becomes the
greatest word (`toNat_pageOffset`), so all pages from some page on have the same
window.

That window begins behind every row that pages can reach. A row before the
greatest word is therefore on a page only if the product of that page is exact,
and then the page is the quotient of the row by the rows per page
(`onPage_iff`). Hence each such row is on one page.

Nothing else of a statement depends on the page: `exists_select_window` splits
the selection of a query at its window.
-/

namespace SearchQL

/-! ## The numbers of a page -/

/-- Whether a row of a result, counted from zero, is in the window of a page. -/
def OnPage (page perPage : UInt64) (row : Nat) : Prop :=
  (pageOffset page perPage).toNat ≤ row ∧
    row < (pageOffset page perPage).toNat + perPage.toNat

instance (page perPage : UInt64) (row : Nat) : Decidable (OnPage page perPage row) :=
  inferInstanceAs (Decidable (_ ∧ _))

/-- The offset of a page is exact or the greatest word. It never wraps. -/
theorem toNat_pageOffset (page perPage : UInt64) :
    (pageOffset page perPage).toNat = min ((page.toNat - 1) * perPage.toNat) greatestUInt64 := by
  rw [pageOffset]
  exact UInt64.toNat_ofNat_of_lt' (by simp only [greatestUInt64, UInt64.size]; omega)

/-- Page zero is page one. -/
theorem pageOffset_zero (perPage : UInt64) : pageOffset 0 perPage = pageOffset 1 perPage := rfl

/-- The page of a row, counted from zero, is the quotient of the row by the rows per page. -/
theorem onPage_iff {page perPage : UInt64} (positive : 0 < perPage) {row : Nat}
    (reachable : row < greatestUInt64) :
    OnPage page perPage row ↔ page.toNat - 1 = row / perPage.toNat := by
  have some_row : 0 < perPage.toNat := UInt64.lt_iff_toNat_lt.mp positive
  have quotient : page.toNat - 1 = row / perPage.toNat ↔
      (page.toNat - 1) * perPage.toNat ≤ row ∧
        row < (page.toNat - 1) * perPage.toNat + perPage.toNat := by
    rw [eq_comm, Nat.div_eq_iff some_row, Nat.mul_comm]
    omega
  rw [OnPage, toNat_pageOffset, quotient]
  omega

/-- Every row before the greatest word is on exactly one page. -/
theorem existsUnique_onPage {perPage : UInt64} (positive : 0 < perPage) {row : Nat}
    (reachable : row < greatestUInt64) : ∃! page : UInt64, 1 ≤ page ∧ OnPage page perPage row := by
  have counted : row / perPage.toNat + 1 < UInt64.size := by
    have le := Nat.div_le_self row perPage.toNat
    simp only [greatestUInt64] at reachable
    omega
  have number : (UInt64.ofNat (row / perPage.toNat + 1)).toNat = row / perPage.toNat + 1 :=
    UInt64.toNat_ofNat_of_lt' counted
  refine ⟨UInt64.ofNat (row / perPage.toNat + 1), ⟨?_, ?_⟩, ?_⟩
  · rw [UInt64.le_iff_toNat_le, number]
    exact Nat.succ_le_succ (Nat.zero_le _)
  · rw [onPage_iff positive reachable, number, Nat.add_sub_cancel]
  · rintro page ⟨first, on_page⟩
    rw [onPage_iff positive reachable] at on_page
    have from_one : 1 ≤ page.toNat := UInt64.le_iff_toNat_le.mp first
    apply UInt64.toNat_inj.mp
    omega

/-! ## The statement of a page -/

namespace Query

/-- The statement that a query compiles to for one of its pages. -/
def pageStatement (tablePrefix : String) (q : Query) (page perPage : UInt64) :
    Except Error Statement :=
  (QueryCall.apply q (.forPage page perPage)).bind (select tablePrefix)

/-- The window of a query stands between two parts of its selection that it is no part of. -/
theorem exists_select_window (tablePrefix : String) {table : String} {q : Query}
    (indexed : q.index = some table) :
    ∃ before after nothing, ∀ window : Window,
      ({ q with window } : Query).select tablePrefix =
        .ok ⟨before ++ .text window.sql :: after, nothing⟩ := by
  refine ⟨.text ("SELECT " ++ q.projection ++ " FROM " ++ tableName tablePrefix table) ::
      q.rowFilter.fragment "WHERE" ++
      [.text q.grouping, .text (sorting "WITHIN GROUP ORDER BY" q.groupOrder)] ++
      q.groupFilter.fragment "HAVING" ++ [.text (sorting "ORDER BY" q.order)],
    [.text q.optionList, .text (String.join (q.facets.map Facet.sql))],
    q.rowFilter.isNothing || q.groupFilter.isNothing, fun window => ?_⟩
  have found : ({ q with window } : Query).target tablePrefix =
      .ok (tableName tablePrefix table) := by
    simp only [target, indexed]
  rw [select_eq_map, found]
  simp [Except.map, afterFilter, rowFilter, groupFilter, projection, grouping, optionList]

end Query

namespace Entity

/-- A page of an entity has every row of its index and no other part than its window. -/
theorem select_pageQuery (tablePrefix : String) (e : Entity) (page : UInt64) :
    (e.pageQuery page).select tablePrefix =
      .ok ⟨[.text ("SELECT * FROM " ++ Query.tableName tablePrefix e.table), .text "", .text "",
        .text "", .text (e.pageQuery page).window.sql, .text "", .text ""], false⟩ := by
  rw [Query.select_eq_map]
  rfl

/-- What an entity sends for a page. -/
theorem pagePlan_eq (tablePrefix : String) (e : Entity) (page : UInt64) :
    e.pagePlan tablePrefix page =
      .fetch
        ⟨.select, "SELECT * FROM " ++ Query.tableName tablePrefix e.table ++ " LIMIT " ++
          toString (pageOffset page e.perPage) ++ ", " ++ toString e.perPage, []⟩
        fun rows => (rows.mapM e.decodeRow).map .rows := by
  rw [pagePlan, select_pageQuery]
  simp [Query.fetchPlan, Plan.after, Query.request, Statement.sql, Statement.params, Piece.sql,
    Fragment.params, Piece.param?, pageQuery, Window.sql, String.append_assoc]

end Entity

/-! ## All pages -/

/-- **Pages partition a result.** Whatever else a query holds, its pages compile to one statement but
for the window, which names the offset of the page and the rows per page; what an entity sends for
its pages is such a statement. Page zero compiles like page one. An offset is the product of the
pages before and the rows per page as long as a word holds it and the greatest word from there on,
for all numbers. And as long as a page has rows at all, every row before the greatest word is in
the window of exactly one page. -/
theorem pages_partition {tablePrefix table : String} {q : Query} (indexed : q.index = some table) :
    (∃ before after nothing, ∀ page perPage : UInt64,
      q.pageStatement tablePrefix page perPage =
        .ok ⟨before ++ .text (" LIMIT " ++ toString (pageOffset page perPage) ++ ", " ++
          toString perPage) :: after, nothing⟩) ∧
    (∀ (e : Entity) (page : UInt64),
      e.pagePlan tablePrefix page =
          Query.fetchPlan .select (fun rows => (rows.mapM e.decodeRow).map .rows)
            (e.query.pageStatement tablePrefix page e.perPage) ∧
        e.pagePlan tablePrefix page =
          .fetch
            ⟨.select, "SELECT * FROM " ++ Query.tableName tablePrefix e.table ++ " LIMIT " ++
              toString (pageOffset page e.perPage) ++ ", " ++ toString e.perPage, []⟩
            fun rows => (rows.mapM e.decodeRow).map .rows) ∧
    (∀ perPage : UInt64,
      q.pageStatement tablePrefix 0 perPage = q.pageStatement tablePrefix 1 perPage) ∧
    (∀ page perPage : UInt64,
      (pageOffset page perPage).toNat = min ((page.toNat - 1) * perPage.toNat) greatestUInt64) ∧
    ∀ perPage : UInt64, 0 < perPage → ∀ row < greatestUInt64,
      ∃! page : UInt64, 1 ≤ page ∧ OnPage page perPage row := by
  obtain ⟨before, after, nothing, selected⟩ := Query.exists_select_window tablePrefix indexed
  refine ⟨⟨before, after, nothing, ?_⟩, ?_, ?_, toNat_pageOffset, ?_⟩
  · intro page perPage
    exact selected ⟨some perPage, some (pageOffset page perPage)⟩
  · intro e page
    exact ⟨rfl, e.pagePlan_eq tablePrefix page⟩
  · intro perPage
    simp only [Query.pageStatement, QueryCall.apply, pageOffset_zero]
  · intro perPage positive row reachable
    exact existsUnique_onPage positive reachable

/-- The last row that pages of seven rows reach is the first of its page. The offset of the next page
is the greatest word already, and the page after that has it too. -/
theorem pages_partition_last_row :
    ({ index := some "products" } : Query).index = some "products" ∧ (0 : UInt64) < 7 ∧
      greatestUInt64 - 1 < greatestUInt64 ∧ OnPage 2635249153387078803 7 (greatestUInt64 - 1) ∧
      (∃! page : UInt64, 1 ≤ page ∧ OnPage page 7 (greatestUInt64 - 1)) ∧
      pageOffset 2635249153387078804 7 = pageOffset 2635249153387078805 7 := by
  obtain ⟨-, -, -, -, partition⟩ := @pages_partition "rt_" "products" { index := some "products" } rfl
  exact ⟨rfl, by decide, by decide, by decide, partition 7 (by decide) _ (by decide), by decide⟩

end SearchQL
