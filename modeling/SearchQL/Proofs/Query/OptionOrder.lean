import SearchQL.Proofs.MultiValue.Arguments
import SearchQL.Proofs.Query.CallOrder
import SearchQL.Proofs.Query.Shape

/-!
# Options — an ordered map built by calls

A name that is set again keeps its place and takes the new value. Place and value
are thus decided at opposite ends of a sequence of calls: the place by the first
call with the name, the value by the last. `LatestByName` says both of a list of
options, and by `LatestByName.unique` no two lists are right for one sequence.

One call is `setOption`. It does to the names what keeping first occurrences does
(`map_fst_setOption`), and to the values what the new one says (`mem_setOption_iff`).
The run, `latestByName_setOptions`, takes the calls from the last one backwards,
since that is the one whose value has to stand. Calls of other kinds leave the
options alone, so they may come in between.

Main statement (`options_latestByName`): the options of every query that calls build
are such a list, and the statements of the query write out this list and no other.
-/

namespace SearchQL

/-! ## Names and values -/

/-- An option is the last one of its name. -/
def IsLatest (o : String × OptionValue) (assigned : List (String × OptionValue)) : Prop :=
  ∃ before after, assigned = before ++ o :: after ∧ ∀ later ∈ after, later.1 ≠ o.1

/-- Each name that is assigned stands once, in the order of first assignments and with the value
of the last. -/
structure LatestByName (assigned options : List (String × OptionValue)) : Prop where
  names : FirstOccurrences (assigned.map Prod.fst) (options.map Prod.fst)
  values : ∀ o, o ∈ options ↔ IsLatest o assigned

/-- Sets options one after the other. -/
def setOptions (assigned options : List (String × OptionValue)) : List (String × OptionValue) :=
  assigned.foldl (fun options o => setOption o.1 o.2 options) options

namespace OptionValue

/-- How a character stands in a quoted text. A backslash or a quote has a backslash before it, and
three control characters have one before a letter or digit that stands for them. -/
def writtenChar (c : Char) : List Char :=
  if c = '\\' ∨ c = '\x27' then ['\\', c]
  else if c = '\n' then ['\\', 'n']
  else if c = '\r' then ['\\', 'r']
  else if c = '\x00' then ['\\', '0']
  else [c]

/-- The value of an option, as a clause writes it: a number by its digits, a name as it stands, a
text in single quotes, and weights as a list of names with their numbers. -/
def written : OptionValue → String
  | integer n => toString n.toInt
  | real x => x.plain
  | ident name => name
  | text s => "'" ++ String.ofList (s.toList.flatMap writtenChar) ++ "'"
  | weights pairs =>
    "(" ++ ", ".intercalate (pairs.map fun p => p.1 ++ "=" ++ toString p.2.toInt) ++ ")"

end OptionValue

/-- A list of options as a clause; without options there is none. -/
def optionClause (options : List (String × OptionValue)) : String :=
  if options = [] then ""
  else " OPTION " ++ ", ".intercalate (options.map fun o => o.1 ++ " = " ++ o.2.written)

section

variable {name : String} {value : OptionValue} {o x : String × OptionValue}
  {assigned options : List (String × OptionValue)}

/-! ### One option -/

/-- Setting an option adds its name at the end, unless it is there already. -/
theorem map_fst_setOption (name : String) (value : OptionValue)
    (options : List (String × OptionValue)) :
    (setOption name value options).map Prod.fst = keepFirst (options.map Prod.fst) name := by
  induction options with
  | nil => rfl
  | cons first rest ih =>
    rw [setOption]
    split
    · next same => simp [keepFirst, same]
    · next other =>
      have ne : name ≠ first.1 := Ne.symm other
      rw [List.map_cons, ih, List.map_cons, keepFirst, keepFirst]
      by_cases there : name ∈ rest.map Prod.fst
      · rw [if_pos there, if_pos (List.mem_cons_of_mem _ there)]
      · rw [if_neg there, if_neg (List.not_mem_cons_of_ne_of_not_mem ne there), List.cons_append]

theorem mem_setOption_iff (nodup : (options.map Prod.fst).Nodup) :
    o ∈ setOption name value options ↔ o = (name, value) ∨ o ∈ options ∧ o.1 ≠ name := by
  induction options with
  | nil => simp [setOption]
  | cons first rest ih =>
    obtain ⟨fresh, nodup⟩ := List.nodup_cons.mp nodup
    rw [setOption]
    split
    · next same =>
      -- none of the rest has the name, as the names are different
      have apart : o ∈ rest → o.1 ≠ name := fun mem is_name =>
        fresh (List.mem_map.mpr ⟨o, mem, is_name.trans same.symm⟩)
      have gone : o = first → o.1 = name := fun is_first => is_first ▸ same
      rw [same, List.mem_cons, List.mem_cons]
      tauto
    · next other =>
      have stays : o = first → o.1 ≠ name := fun is_first => is_first ▸ other
      rw [List.mem_cons, ih nodup, List.mem_cons]
      tauto

/-- The latest options of a sequence with one more: this one, and what has another name. -/
theorem isLatest_concat_iff :
    IsLatest o (assigned ++ [x]) ↔ o = x ∨ IsLatest o assigned ∧ o.1 ≠ x.1 := by
  constructor
  · rintro ⟨before, after, eq, different⟩
    rcases List.eq_nil_or_concat after with rfl | ⟨after, last, rfl⟩
    · exact .inl (List.singleton_inj.mp (List.append_inj' eq rfl).2).symm
    · rw [List.concat_eq_append] at eq different
      rw [← List.cons_append, ← List.append_assoc] at eq
      obtain ⟨rfl, same⟩ := List.append_inj' eq rfl
      cases same
      refine .inr ⟨⟨before, after, rfl, fun later mem => ?_⟩, ?_⟩
      · exact different later (List.mem_append_left _ mem)
      · exact (different x (List.mem_append_right _ (List.mem_singleton_self x))).symm
  · rintro (rfl | ⟨⟨before, after, rfl, different⟩, ne⟩)
    · exact ⟨assigned, [], rfl, fun later mem => absurd mem List.not_mem_nil⟩
    · refine ⟨before, after ++ [x], by rw [List.append_assoc, List.cons_append], ?_⟩
      intro later mem
      rcases List.mem_append.mp mem with mem | mem
      · exact different later mem
      · exact List.mem_singleton.mp mem ▸ ne.symm

/-! ### Many options -/

theorem map_fst_setOptions (assigned options : List (String × OptionValue)) :
    (setOptions assigned options).map Prod.fst =
      (assigned.map Prod.fst).foldl keepFirst (options.map Prod.fst) := by
  induction assigned generalizing options with
  | nil => rfl
  | cons o rest ih =>
    rw [setOptions, List.foldl_cons, ← setOptions, ih, map_fst_setOption, List.map_cons,
      List.foldl_cons]

/-- What is set from nothing on is an ordered map of what was assigned. -/
theorem latestByName_setOptions (assigned : List (String × OptionValue)) :
    LatestByName assigned (setOptions assigned []) := by
  have names (assigned : List (String × OptionValue)) :
      FirstOccurrences (assigned.map Prod.fst) ((setOptions assigned []).map Prod.fst) := by
    rw [map_fst_setOptions]
    exact firstOccurrences_foldl_keepFirst _
  refine ⟨names assigned, ?_⟩
  -- from the end: the last call decides about its name, those before it about the others
  induction assigned using List.reverseRecOn with
  | nil =>
    intro o
    refine ⟨fun mem => absurd mem List.not_mem_nil, ?_⟩
    rintro ⟨before, after, eq, -⟩
    exact absurd eq.symm (List.append_ne_nil_of_right_ne_nil before (List.cons_ne_nil o after))
  | append_singleton assigned x ih =>
    intro o
    rw [setOptions, List.foldl_concat, ← setOptions, mem_setOption_iff (names assigned).nodup,
      isLatest_concat_iff, ih]

example :
    setOptions [("ranker", .ident "bm25"), ("cutoff", .integer 5), ("ranker", .ident "sph04")] [] =
      [("ranker", .ident "sph04"), ("cutoff", .integer 5)] := by
  decide

/-- No two lists are right for one sequence of assignments. -/
theorem LatestByName.unique {other : List (String × OptionValue)}
    (h : LatestByName assigned options) (h' : LatestByName assigned other) : options = other := by
  have place_lt {options : List (String × OptionValue)} (h : LatestByName assigned options) :
      options.Pairwise fun a b =>
        (assigned.map Prod.fst).idxOf a.1 < (assigned.map Prod.fst).idxOf b.1 :=
    .of_map Prod.fst (fun _ _ lt => lt) h.names.inOrder
  have same : options.Perm other := by
    rw [List.perm_ext_iff_of_nodup (.of_map Prod.fst h.names.nodup)
      (.of_map Prod.fst h'.names.nodup)]
    exact fun o => (h.values o).trans (h'.values o).symm
  exact same.eq_of_pairwise (fun _ _ _ _ lt gt => absurd gt (Nat.lt_asymm lt)) (place_lt h)
    (place_lt h')

end

namespace OptionValue

theorem quoteChar_eq_writtenChar : Param.quoteChar = writtenChar := by
  funext c
  unfold Param.quoteChar writtenChar
  split
  · rfl
  · rfl
  · rfl
  · rfl
  · rfl
  · next not_backslash not_quote not_newline not_return not_null =>
    rw [if_neg (not_or.mpr ⟨not_backslash, not_quote⟩), if_neg not_newline, if_neg not_return,
      if_neg not_null]

theorem sql_eq_written (value : OptionValue) : value.sql = value.written := by
  cases value with
  | text s =>
    rw [sql, written, Param.quote, quoteChar_eq_writtenChar, ← String.toList_inj]
    simp
  | _ => rfl

end OptionValue

/-! ## Calls -/

namespace QueryCall

/-- The option that a call sets, if it is a call for an option. -/
def option? : QueryCall → Option (String × OptionValue)
  | option name value => some (name, value)
  | _ => none

/-- A call for an option does not fail. -/
theorem option?_eq_none_of_rejection? {call : QueryCall} {e : Error}
    (rejected : call.rejection? = some e) : call.option? = none := by
  cases call with
  | option name value => cases rejected
  | _ => rfl

/-- A call sets its option, and changes the options by nothing else. -/
theorem options_after (q : Query) (call : QueryCall) :
    (after q call).options = setOptions call.option?.toList q.options := by
  cases call with
  | option name value => rfl
  | whereMulti column operator values =>
    have kept : (after q (.whereMulti column operator values)).Agree q .options :=
      Query.agree_after_of_not_mem (by simp [clauses]) q
    exact kept
  | _ => rfl

end QueryCall

namespace Query

open QueryCall

/-- The options that many calls leave behind are those that they set, in turn. -/
theorem options_foldl_after (calls : List QueryCall) (q : Query) :
    (calls.foldl after q).options = setOptions (calls.filterMap option?) q.options := by
  induction calls generalizing q with
  | nil => rfl
  | cons call rest ih =>
    rw [List.foldl_cons, ih, options_after, List.filterMap_cons]
    cases call.option? <;> rfl

/-! ## Statements -/

/-- A query without the parts that end its selection. -/
def withoutTail (q : Query) : Query := { q with options := [], facets := [] }

theorem optionList_eq (q : Query) : q.optionList = optionClause q.options := by
  rw [optionList, optionClause]
  simp only [List.isEmpty_iff, OptionValue.sql_eq_written]

theorem sql_afterFilter (q : Query) :
    Fragment.sql q.afterFilter =
      Fragment.sql q.withoutTail.afterFilter ++ optionClause q.options ++
        String.join (q.facets.map Facet.sql) := by
  rw [← optionList_eq]
  simp [afterFilter, withoutTail, grouping, groupFilter, optionList, Piece.sql, String.append_assoc]

/-- A selection ends in its options and its facets, and what comes before depends on neither. -/
theorem sql_select (tablePrefix : String) (q : Query) :
    (q.select tablePrefix).map Statement.sql =
      (q.withoutTail.select tablePrefix).map fun head =>
        head.sql ++ optionClause q.options ++ String.join (q.facets.map Facet.sql) := by
  have same_target : q.withoutTail.target tablePrefix = q.target tablePrefix := rfl
  rw [select_eq_map, select_eq_map, same_target]
  cases q.target tablePrefix with
  | error e => rfl
  | ok table =>
    apply congrArg Except.ok
    simp only [Statement.sql, Fragment.sql_append, sql_afterFilter q, String.append_assoc]
    rfl

/-- A count ends in the options of its query. It has no facets. -/
theorem sql_count (tablePrefix : String) (q : Query) :
    (q.count tablePrefix).map Statement.sql =
      (q.withoutTail.count tablePrefix).map fun head => head.sql ++ optionClause q.options := by
  have tail (head : Statement) : head.sql ++ optionClause q.options ++ String.join [] =
      head.sql ++ optionClause q.options := String.append_empty
  simpa only [count, counting, withoutTail, List.map_nil, tail] using
    sql_select tablePrefix q.counting

/-- **The options of a query are an ordered map.** If calls build a query, then its options are the
one list that has each name that the calls set once, in the order of first calls and each with the
value of its last call. The selection and the count of the query write this list after everything
else, up to the facets of a selection. Building fails only at a call that sets no option. -/
theorem options_latestByName (tablePrefix : String) (table : Option String)
    (calls : List QueryCall) :
    match ({ index := table } : Query).applyCalls calls with
    | .error e => ∃ call ∈ calls, call.option? = none ∧ call.rejection? = some e
    | .ok q =>
      (∀ options, LatestByName (calls.filterMap option?) options ↔ options = q.options) ∧
        (q.select tablePrefix).map Statement.sql =
          ((q.withoutTail.select tablePrefix).map fun head =>
            head.sql ++ optionClause q.options ++ String.join (q.facets.map Facet.sql)) ∧
        (q.count tablePrefix).map Statement.sql =
          (q.withoutTail.count tablePrefix).map fun head => head.sql ++ optionClause q.options := by
  rw [applyCalls_eq]
  cases rejected : calls.findSome? rejection? with
  | some e =>
    obtain ⟨call, mem, rejected⟩ := List.exists_of_findSome?_eq_some rejected
    exact ⟨call, mem, option?_eq_none_of_rejection? rejected, rejected⟩
  | none =>
    refine ⟨fun options => ?_, sql_select tablePrefix _, sql_count tablePrefix _⟩
    have built := latestByName_setOptions (calls.filterMap option?)
    rw [options_foldl_after]
    exact ⟨fun h => h.unique built, fun eq => eq ▸ built⟩

example :
    ((({ index := some "items" } : Query).applyCalls
        [.option "ranker" (.ident "bm25"), .limit 3, .option "cutoff" (.integer 5),
          .facet [.column "brand"], .option "ranker" (.ident "sph04")]).bind
      (·.select "rt_")).map Statement.sql =
      .ok "SELECT * FROM rt_items LIMIT 0, 3 OPTION ranker = sph04, cutoff = 5 FACET brand" := by
  rfl

end Query

end SearchQL
