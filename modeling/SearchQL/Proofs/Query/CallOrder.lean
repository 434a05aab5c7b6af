import SearchQL.Query.Call
import SearchQL.Query.Statement

/-!
# Call order — the clauses of a query are built apart

The calls that build a query are made in one sequence, but each is about one
clause, or two. This module says that the order of calls matters within a clause
only: two sequences that have the same calls for each clause, in the same order,
make the same query, and fail with the same error if they fail. What the query
compiles to is then the same as well.

`QueryCall.clauses` assigns the clauses. It is a claim about `QueryCall.apply` and
not read off it, and two lemmas hold the two together. A call changes nothing of
a clause that it does not touch (`agree_after_of_not_mem`). What it makes of a
clause that it does touch depends on that clause only (`agree_after`). The run
lemma, `agree_foldl_callsFor`, is by induction over the calls, and the two queries
that it compares need to agree on the one clause at the beginning, not as a whole.
-/

namespace SearchQL

/-! ## Clauses -/

/-- A part of a query that calls build. -/
inductive ClauseName where
  | index
  | columns
  | terms
  | filter
  | groups
  | groupOrder
  | having
  | order
  | limit
  | offset
  | options
  | facets
deriving DecidableEq, Repr

namespace QueryCall

/-- The clauses that a call touches. -/
def clauses : QueryCall → List ClauseName
  | fromIndex _ => [.index]
  | select _ => [.columns]
  | andWhere _ _ _ | orWhere _ _ _ | whereIn _ _ | whereNotIn _ _ | whereBetween _ _ _
  | whereNull _ | whereNotNull _ | whereMulti _ _ _ => [.filter]
  | matching _ _ _ => [.terms]
  | groupBy _ | groupLimitedBy _ _ => [.groups]
  | withinGroupOrderBy _ _ => [.groupOrder]
  | having _ _ _ => [.having]
  | orderBy _ _ => [.order]
  | limit _ => [.limit]
  | offset _ => [.offset]
  | forPage _ _ => [.limit, .offset]
  | option _ _ => [.options]
  | facet _ => [.facets]

/-- The calls for a clause, in their order. -/
def callsFor (clause : ClauseName) (calls : List QueryCall) : List QueryCall :=
  calls.filter (clause ∈ ·.clauses)

theorem callsFor_cons_of_mem {clause : ClauseName} {call : QueryCall}
    (touched : clause ∈ call.clauses) (rest : List QueryCall) :
    callsFor clause (call :: rest) = call :: callsFor clause rest :=
  List.filter_cons_of_pos (decide_eq_true touched)

theorem callsFor_cons_of_not_mem {clause : ClauseName} {call : QueryCall}
    (untouched : clause ∉ call.clauses) (rest : List QueryCall) :
    callsFor clause (call :: rest) = callsFor clause rest :=
  List.filter_cons_of_neg fun touched => untouched (of_decide_eq_true touched)

/-! ## One call -/

/-- Why a call fails, if it does. This does not depend on the query. -/
def rejection? : QueryCall → Option Error
  | whereMulti _ _ values =>
    match MultiValue.ofArguments values with
    | .ok _ => none
    | .error e => some e
  | _ => none

/-- What a call makes of a query; a call that fails leaves it as it is. -/
def after (q : Query) (call : QueryCall) : Query := (call.apply q).toOption.getD q

/-- A call fails for its own reason, whatever the query is. -/
theorem apply_eq (call : QueryCall) (q : Query) :
    call.apply q =
      match call.rejection? with
      | some e => .error e
      | none => .ok (after q call) := by
  cases call with
  | whereMulti column operator values =>
    rw [after, apply, rejection?]
    cases MultiValue.ofArguments values <;> rfl
  | _ => rfl

/-- A call that fails is one for the filter. -/
theorem filter_mem_clauses_of_rejection? {call : QueryCall} {e : Error}
    (rejected : call.rejection? = some e) : ClauseName.filter ∈ call.clauses := by
  cases call with
  | whereMulti column operator values => exact List.mem_singleton_self _
  | _ => cases rejected

end QueryCall

/-! ## Queries clause by clause -/

namespace Query

/-- Whether two queries have the same clause of a name. -/
def Agree (p q : Query) : ClauseName → Prop
  | .index => p.index = q.index
  | .columns => p.columns = q.columns
  | .terms => p.terms = q.terms
  | .filter => p.filter = q.filter
  | .groups => (p.groups, p.groupLimit) = (q.groups, q.groupLimit)
  | .groupOrder => p.groupOrder = q.groupOrder
  | .having => p.having = q.having
  | .order => p.order = q.order
  | .limit => p.window.limit = q.window.limit
  | .offset => p.window.offset = q.window.offset
  | .options => p.options = q.options
  | .facets => p.facets = q.facets

variable {p q r : Query} {clause : ClauseName}

theorem Agree.refl (q : Query) (clause : ClauseName) : q.Agree q clause := by
  cases clause <;> rfl

theorem Agree.symm (h : p.Agree q clause) : q.Agree p clause := by
  cases clause <;> exact Eq.symm h

theorem Agree.trans (h : p.Agree q clause) (h' : q.Agree r clause) : p.Agree r clause := by
  cases clause <;> exact Eq.trans h h'

/-- The clauses are all that a query is. -/
theorem eq_of_agree (h : ∀ clause, p.Agree q clause) : p = q := by
  obtain ⟨index, columns, terms, filter, groups, groupLimit, groupOrder, having', order,
    ⟨limit, offset⟩, options, facets⟩ := p
  obtain ⟨index', columns', terms', filter', groups', groupLimit', groupOrder', having'', order',
    ⟨limit', offset'⟩, options', facets'⟩ := q
  cases h .index
  cases h .columns
  cases h .terms
  cases h .filter
  cases h .groups
  cases h .groupOrder
  cases h .having
  cases h .order
  cases h .limit
  cases h .offset
  cases h .options
  cases h .facets
  rfl

open QueryCall

/-- A multi-value filter adds conditions that do not depend on the query, or none if it fails. -/
theorem exists_after_whereMulti (column operator : String) (values : List Value) :
    ∃ added, ∀ q, after q (.whereMulti column operator values) =
      { q with filter := q.filter ++ added } := by
  cases converted : MultiValue.ofArguments values with
  | error e =>
    refine ⟨[], fun q => ?_⟩
    rw [after, apply, converted, List.append_nil]
    rfl
  | ok integers =>
    refine ⟨[⟨.and, .multi column (.ofText operator) integers⟩], fun q => ?_⟩
    rw [after, apply, converted]
    rfl

/-- A call changes nothing of a clause that it does not touch. -/
theorem agree_after_of_not_mem {call : QueryCall} (untouched : clause ∉ call.clauses) (q : Query) :
    (after q call).Agree q clause := by
  cases call with
  | whereMulti column operator values =>
    obtain ⟨added, eq⟩ := exists_after_whereMulti column operator values
    rw [eq]
    cases clause with
    | filter => exact absurd List.mem_cons_self untouched
    | _ => rfl
  | forPage page perPage =>
    cases clause with
    | limit => exact absurd List.mem_cons_self untouched
    | offset => exact absurd (List.mem_cons_of_mem _ List.mem_cons_self) untouched
    | _ => rfl
  | _ =>
    -- each of the others is for one clause: it is this one, or the call writes none of its fields
    cases clause <;> first | rfl | exact absurd List.mem_cons_self untouched

/-- What a call makes of a clause that it touches depends on that clause only. -/
theorem agree_after_of_mem {call : QueryCall} (touched : clause ∈ call.clauses)
    (h : p.Agree q clause) : (after p call).Agree (after q call) clause := by
  cases call with
  | forPage page perPage =>
    rcases List.mem_cons.mp touched with rfl | touched
    · rfl
    · cases List.mem_singleton.mp touched
      rfl
  | whereMulti column operator values =>
    cases List.mem_singleton.mp touched
    obtain ⟨added, eq⟩ := exists_after_whereMulti column operator values
    rw [eq, eq]
    exact congrArg (· ++ added) h
  | andWhere _ _ _ | orWhere _ _ _ | whereIn _ _ | whereNotIn _ _ | whereBetween _ _ _
  | whereNull _ | whereNotNull _ | matching _ _ _ | withinGroupOrderBy _ _ | having _ _ _
  | orderBy _ _ | facet _ =>
    cases List.mem_singleton.mp touched
    exact congrArg (· ++ [_]) h
  | select columns =>
    cases List.mem_singleton.mp touched
    exact congrArg (· ++ columns) h
  | groupBy column =>
    cases List.mem_singleton.mp touched
    exact congrArg (fun part => (part.1 ++ [column], part.2)) h
  | groupLimitedBy column n =>
    cases List.mem_singleton.mp touched
    exact congrArg (fun part => (part.1 ++ [column], some n)) h
  | option name value =>
    cases List.mem_singleton.mp touched
    exact congrArg (setOption name value) h
  | fromIndex _ | limit _ | offset _ =>
    cases List.mem_singleton.mp touched
    rfl

/-- What a call makes of a clause depends on that clause only. -/
theorem agree_after (h : p.Agree q clause) (call : QueryCall) :
    (after p call).Agree (after q call) clause := by
  by_cases touched : clause ∈ call.clauses
  · exact agree_after_of_mem touched h
  · exact ((agree_after_of_not_mem touched p).trans h).trans
      (agree_after_of_not_mem touched q).symm

/-! ## Many calls -/

/-- Of many calls a clause keeps what the calls for it make of it. -/
theorem agree_foldl_callsFor (clause : ClauseName) (calls : List QueryCall) :
    ∀ p q : Query, p.Agree q clause →
      (calls.foldl after p).Agree ((callsFor clause calls).foldl after q) clause := by
  induction calls with
  | nil =>
    intro p q h
    exact h
  | cons call rest ih =>
    intro p q h
    by_cases touched : clause ∈ call.clauses
    · rw [callsFor_cons_of_mem touched]
      exact ih _ _ (agree_after h call)
    · rw [callsFor_cons_of_not_mem touched]
      exact ih _ _ ((agree_after_of_not_mem touched p).trans h)

/-- The first call that fails is found among the calls for the filter. -/
theorem findSome?_callsFor_filter (calls : List QueryCall) :
    (callsFor .filter calls).findSome? rejection? = calls.findSome? rejection? := by
  induction calls with
  | nil => rfl
  | cons call rest ih =>
    by_cases touched : ClauseName.filter ∈ call.clauses
    · rw [callsFor_cons_of_mem touched, List.findSome?_cons, List.findSome?_cons, ih]
    · cases rejected : call.rejection? with
      | some e => exact absurd (filter_mem_clauses_of_rejection? rejected) touched
      | none => rw [callsFor_cons_of_not_mem touched, List.findSome?_cons, rejected, ih]

/-- Calls fail as the first of them that does; otherwise the query is what they make of it. -/
theorem applyCalls_eq (calls : List QueryCall) :
    ∀ q : Query, q.applyCalls calls =
      match calls.findSome? rejection? with
      | some e => .error e
      | none => .ok (calls.foldl after q) := by
  induction calls with
  | nil =>
    intro q
    rfl
  | cons call rest ih =>
    intro q
    rw [applyCalls, List.foldlM_cons, apply_eq, List.findSome?_cons]
    cases call.rejection? with
    | some e => rfl
    | none => exact ih (after q call)

/-- Two sequences of calls with the same calls for each clause make the same of a query, be it a
query or an error. -/
theorem applyCalls_eq_of_callsFor_eq {left right : List QueryCall}
    (same : ∀ clause, callsFor clause left = callsFor clause right) (q : Query) :
    q.applyCalls left = q.applyCalls right := by
  have built : left.foldl after q = right.foldl after q := by
    apply eq_of_agree
    intro clause
    have of_left := agree_foldl_callsFor clause left q q (Agree.refl q clause)
    have of_right := agree_foldl_callsFor clause right q q (Agree.refl q clause)
    rw [same clause] at of_left
    exact of_left.trans of_right.symm
  rw [applyCalls_eq, applyCalls_eq, built, ← findSome?_callsFor_filter left, same .filter,
    findSome?_callsFor_filter]

/-- **The order of calls matters within a clause only.** Two sequences of calls that have the same
calls for each clause, in the same order, compile to the same selection and to the same count: the
same text, the same parameters, the same answer to whether anything can match, or the same error. -/
theorem compiled_of_callsFor_eq (tablePrefix : String) (q : Query) {left right : List QueryCall}
    (same : ∀ clause, callsFor clause left = callsFor clause right) :
    (q.applyCalls left).bind (·.select tablePrefix) =
        (q.applyCalls right).bind (·.select tablePrefix) ∧
      (q.applyCalls left).bind (·.count tablePrefix) =
        (q.applyCalls right).bind (·.count tablePrefix) := by
  rw [applyCalls_eq_of_callsFor_eq same]
  exact ⟨rfl, rfl⟩

/-- Calls that overwrite one another: a page behind a limit, the index and an option twice. In the
second sequence they are taken apart, and the page stands between the limit and an offset. -/
theorem compiled_of_callsFor_eq_overwriting :
    let left : List QueryCall :=
      [.fromIndex "drafts", .limit 7, .andWhere "a" "=" (.integer 1),
        .option "ranker" (.ident "bm25"), .forPage 3 20, .groupBy "g", .fromIndex "items",
        .offset 5, .orWhere "b" "<" (.text "?"), .option "ranker" (.ident "sph04"),
        .groupLimitedBy "h" 2, .orderBy "c" .descending]
    let right : List QueryCall :=
      [.orderBy "c" .descending, .groupBy "g", .groupLimitedBy "h" 2, .limit 7, .forPage 3 20,
        .offset 5, .option "ranker" (.ident "bm25"), .option "ranker" (.ident "sph04"),
        .andWhere "a" "=" (.integer 1), .orWhere "b" "<" (.text "?"), .fromIndex "drafts",
        .fromIndex "items"]
    (({} : Query).applyCalls left).bind (·.select "rt_") =
        (({} : Query).applyCalls right).bind (·.select "rt_") ∧
      (({} : Query).applyCalls left).bind (·.count "rt_") =
        (({} : Query).applyCalls right).bind (·.count "rt_") ∧
      ((({} : Query).applyCalls right).bind (·.select "rt_")).map Statement.sql =
        .ok ("SELECT * FROM rt_items WHERE a = ? OR b < ? GROUP 2 BY g, h ORDER BY c DESC" ++
          " LIMIT 5, 20 OPTION ranker = sph04") := by
  intro left right
  have same : ∀ clause, callsFor clause left = callsFor clause right := by
    intro clause
    cases clause <;> rfl
  obtain ⟨selected, counted⟩ := compiled_of_callsFor_eq "rt_" {} same
  exact ⟨selected, counted, by rfl⟩

end Query

end SearchQL
