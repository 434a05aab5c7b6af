import SearchQL.Proofs.Filter.Formula
import SearchQL.Proofs.Query.Shape

/-!
# The meaning of a filter — what is written says what was asked

A compiled filter is held against the formula of its clause list, written with
question marks, under every assignment of the atoms:

- it is empty of rows exactly when the formula holds nowhere;
- it is silent, without being empty, exactly when some branch of the formula has
  neither a false term nor an atom, and then the formula holds everywhere;
- otherwise its text is an `OR` of `AND`s of tests of the formula, and has the
  truth value of the formula.

The second case is the dangerous one: a silent filter on a deletion deletes
everything, so it has to be reached by a formula that asks for everything.

`compiled_filter` adds that a selection, a count, an update and a deletion of one
query carry the same filter in the same place, and when they need not be sent.
-/

namespace SearchQL

/-! ## Fragments as text and values -/

/-- A fragment as a text with question marks and its values. -/
def Fragment.written (f : Fragment) : Written := ⟨f.sql, f.params⟩

namespace Condition

/-- A test against a list of values is written with as many question marks. -/
theorem written_of_listTest {c : Condition} {subject : String} {values : List Param}
    (tests : c.term = listTest subject values) :
    c.fragment.written = ⟨subject ++ " " ++ Fragment.tupleText values.length, values⟩ := by
  rw [fragment_of_listTest tests, Fragment.written, Fragment.sql_cons, Fragment.sql_tuple,
    Fragment.params_text_cons, Fragment.params_tuple, Piece.sql]

/-- A condition that is no constant is compiled to what it is written as. -/
theorem written_fragment {c : Condition} (h : c.constant? = none) :
    c.fragment.written = c.written := by
  cases c with
  | compare column operator value =>
    have mark : " ?" = " " ++ "?" := rfl
    refine congrArg₂ Written.mk ?_ rfl
    simp [fragment, term, Filter.test?, Piece.sql, mark, String.append_assoc]
  | within column values negated =>
    cases values with
    | nil => cases h
    | cons value values =>
      rw [written_of_listTest rfl, written, within_keyword]
      simp only [String.append_assoc]
  | between column low high negated =>
    have marks : "? AND ?" = "?" ++ (" AND " ++ "?") := rfl
    rw [written, between_keyword]
    refine congrArg₂ Written.mk ?_ rfl
    simp [fragment, term, Filter.test?, Piece.sql, marks, String.append_assoc]
  | isNull column negated =>
    rw [written, isNull_keyword]
    refine congrArg₂ Written.mk ?_ rfl
    simp [fragment, term, Filter.test?, Piece.sql, String.append_assoc]
  | multi column operator values =>
    cases values with
    | nil => cases operator <;> cases h
    | cons value values =>
      rw [written_of_listTest rfl, List.length_map, multiSubject_append]
      cases operator <;> rfl

end Condition

namespace Filter

/-! ## What a filter says -/

/-- Whether nothing is written for a filter though it can hold. -/
def IsSilent (filter : Filter) : Prop :=
  filter.isNothing = false ∧ ∀ keyword, filter.fragment keyword = []

/-- What a filter writes when it writes anything: tests of the formula, no branch without one, that
together have the truth value of the formula. -/
structure Writes (filter : Filter) (asked : List (List (Operand Written)))
    (tests : List (List (Atom × Written))) : Prop where
  fromFormula : ∀ branch ∈ tests, ∃ operands ∈ asked, ∀ t ∈ branch, .test t.1 t.2 ∈ operands
  nonempty : tests ≠ [] ∧ [] ∉ tests
  text : ∀ keyword, (filter.fragment keyword).sql =
    disjunctionText keyword (tests.map fun branch => branch.map fun t => t.2.sql)
  values : ∀ keyword, (filter.fragment keyword).params =
    tests.flatMap fun branch => branch.flatMap fun t => t.2.values
  truth_eq : ∀ v, (tests.any fun branch => branch.all fun t => v t.1) = truth v asked

/-- What a filter has to say for the formula that was asked for. -/
structure Means (filter : Filter) (asked : List (List (Operand Written))) : Prop where
  isNothing_iff : filter.isNothing = true ↔ ∀ v, truth v asked = false
  isSilent_iff : filter.IsSilent ↔ ∃ branch ∈ asked, ∀ o ∈ branch, o = .constant true
  everywhere : filter.IsSilent → ∀ v, truth v asked = true
  writes : filter.isNothing = false → ¬filter.IsSilent → ∃ tests, filter.Writes asked tests

/-- A branch without false terms and atoms makes the formula hold everywhere. -/
theorem truth_of_trivial_branch {α : Type} {asked : List (List (Operand α))}
    (h : ∃ branch ∈ asked, ∀ o ∈ branch, o = .constant true) (v : Atom → Bool) :
    truth v asked = true := by
  obtain ⟨branch, mem, trivial⟩ := h
  simp only [truth, List.any_eq_true, List.all_eq_true]
  refine ⟨branch, mem, fun o ho => ?_⟩
  rw [trivial o ho]
  rfl

/-- The tests that are kept are what the disjunction of their fragments writes. -/
theorem writes_kept {asked : List (List (Operand Fragment))} (some_left : kept asked ≠ [])
    (no_trivial : [] ∉ kept asked) :
    (anyOf ((kept asked).map (·.map Prod.snd))).Writes
      (asked.map (·.map (Operand.map Fragment.written)))
      ((kept asked).map (·.map fun t => (t.1, t.2.written))) where
  fromFormula := by
    intro branch mem
    obtain ⟨tests, tests_mem, rfl⟩ := List.mem_map.mp mem
    obtain ⟨operands, kept_mem, rfl⟩ := List.mem_map.mp tests_mem
    refine ⟨operands.map (Operand.map Fragment.written),
      List.mem_map_of_mem (List.mem_filter.mp kept_mem).1, fun t ht => ?_⟩
    obtain ⟨test, test_mem, rfl⟩ := List.mem_map.mp ht
    obtain ⟨o, ho, shown⟩ := List.mem_filterMap.mp test_mem
    cases o with
    | constant value => cases shown
    | test atom fragment =>
      cases shown
      exact List.mem_map_of_mem ho
  nonempty := ⟨by simpa using some_left, by simpa using no_trivial⟩
  text := by
    intro keyword
    rw [fragment, Fragment.sql_cons, Piece.sql, disjunction, Fragment.sql_joined]
    simp only [disjunctionText, List.map_map, Function.comp_def, Fragment.sql_joined,
      Fragment.written]
  values := by
    intro keyword
    rw [fragment, Fragment.params_text_cons, disjunction, Fragment.params_joined]
    simp only [List.flatMap_map, Fragment.params_joined, Fragment.written]
  truth_eq := by
    intro v
    rw [← kept_map, truth_kept]

/-- The compiled formula, each fragment as its text and its values, is the formula as asked. -/
theorem formula_written (terms : List MatchTerm) (clauses : List Clause) :
    (formula matchFragment Condition.fragment terms clauses).map
        (·.map (Operand.map Fragment.written)) =
      formula writtenMatch Condition.written terms clauses :=
  formula_map (fun _ => rfl) (fun _ => Condition.written_fragment) terms clauses

/-- The compiled filter of a clause list means its formula. -/
theorem means_formula (terms : List MatchTerm) (clauses : List Clause) :
    (ofClauses terms clauses).Means (formula writtenMatch Condition.written terms clauses) := by
  rw [ofClauses_eq, ← formula_written]
  generalize formula matchFragment Condition.fragment terms clauses = compiled
  have writes (some_left : kept compiled ≠ []) (no_trivial : [] ∉ kept compiled) :=
    writes_kept some_left no_trivial
  have kept_asked := kept_map Fragment.written compiled
  generalize compiled.map (·.map (Operand.map Fragment.written)) = asked at writes kept_asked ⊢
  have none_iff : kept compiled = [] ↔ ∀ v, truth v asked = false := by
    rw [← kept_eq_nil_iff, kept_asked, List.map_eq_nil_iff]
  have trivial_iff : [] ∈ kept compiled ↔ ∃ branch ∈ asked, ∀ o ∈ branch, o = .constant true := by
    rw [← nil_mem_kept_iff, kept_asked]
    simp [List.map_eq_nil_iff]
  by_cases none_left : kept compiled = []
  · -- no branch can hold
    have no_trivial : ¬∃ branch ∈ asked, ∀ o ∈ branch, o = .constant true := by
      rw [← trivial_iff, none_left]
      exact List.not_mem_nil
    have not_silent : ¬nothing.IsSilent := fun h => absurd h.1 (by decide)
    simp only [none_left, if_true]
    exact {
      isNothing_iff := iff_of_true rfl (none_iff.mp none_left)
      isSilent_iff := iff_of_false not_silent no_trivial
      everywhere := fun h => absurd h not_silent
      writes := fun h => absurd h (by decide) }
  · have somewhere : ¬∀ v, truth v asked = false := fun h => none_left (none_iff.mpr h)
    by_cases trivial_left : [] ∈ kept compiled
    · -- a branch asks for nothing
      have trivial := trivial_iff.mp trivial_left
      have silent : everything.IsSilent := ⟨rfl, fun _ => rfl⟩
      simp only [none_left, trivial_left, if_true, if_false]
      exact {
        isNothing_iff := iff_of_false (by decide) somewhere
        isSilent_iff := iff_of_true silent trivial
        everywhere := fun _ => truth_of_trivial_branch trivial
        writes := fun _ h => absurd silent h }
    · have not_silent : ¬(anyOf ((kept compiled).map (·.map Prod.snd))).IsSilent := fun h =>
        absurd (h.2 "") (List.cons_ne_nil _ _)
      simp only [none_left, trivial_left, if_false]
      exact {
        isNothing_iff := iff_of_false (by simp [isNothing]) somewhere
        isSilent_iff := iff_of_false not_silent fun h => trivial_left (trivial_iff.mpr h)
        everywhere := fun h => absurd h not_silent
        writes := fun _ _ => ⟨_, writes none_left trivial_left⟩ }

/-- Whether clauses hold of no row, however their atoms turn out. -/
def HoldsNowhere (terms : List MatchTerm) (clauses : List Clause) : Prop :=
  ∀ v, truth v (formula writtenMatch Condition.written terms clauses) = false

end Filter

namespace Query

open SearchQL.Filter

variable (tablePrefix : String) (q : Query)

theorem rowFilter_isNothing_iff : q.rowFilter.isNothing = true ↔ HoldsNowhere q.terms q.filter :=
  (means_formula q.terms q.filter).isNothing_iff

theorem groupFilter_isNothing_iff : q.groupFilter.isNothing = true ↔ HoldsNowhere [] q.having :=
  (means_formula [] q.having).isNothing_iff

/-- A compiled filter means what its clauses mean, and the four statements of a query that have a
filter have that one, behind the head that names the index. A selection and a count need not be
sent exactly when the conditions on rows or the conditions on groups hold nowhere; an update and a
deletion, when the conditions on rows do. -/
theorem compiled_filter (assignments : List (String × Param)) :
    (∀ terms clauses, (ofClauses terms clauses).Means
      (formula writtenMatch Condition.written terms clauses)) ∧
    (∃ empty : Bool, (empty = true ↔ HoldsNowhere q.terms q.filter ∨ HoldsNowhere [] q.having) ∧
      q.select tablePrefix = (q.target tablePrefix).map (fun table =>
        { fragment := [.text ("SELECT " ++ q.projection ++ " FROM " ++ table)] ++
            (ofClauses q.terms q.filter).fragment "WHERE" ++ q.afterFilter
          matchesNothing := empty }) ∧
      q.count tablePrefix = (q.target tablePrefix).map (fun table =>
        { fragment := [.text ("SELECT COUNT(*) AS aggregate FROM " ++ table)] ++
            (ofClauses q.terms q.filter).fragment "WHERE" ++ q.counting.afterFilter
          matchesNothing := empty })) ∧
    (∃ empty : Bool, (empty = true ↔ HoldsNowhere q.terms q.filter) ∧
      q.update tablePrefix assignments =
        (if assignments.isEmpty then .error (.request .noAssignments)
        else (q.target tablePrefix).map fun table =>
          { fragment := .text ("UPDATE " ++ table ++ " SET ") ::
              Fragment.joined ", " (assignments.map assignment) ++
              (ofClauses q.terms q.filter).fragment "WHERE"
            matchesNothing := empty }) ∧
      q.delete tablePrefix = (q.target tablePrefix).map (fun table =>
        { fragment := [.text ("DELETE FROM " ++ table)] ++
            (ofClauses q.terms q.filter).fragment "WHERE"
          matchesNothing := empty })) := by
  refine ⟨means_formula, ⟨q.rowFilter.isNothing || q.groupFilter.isNothing, ?_, ?_, ?_⟩,
    ⟨q.rowFilter.isNothing, q.rowFilter_isNothing_iff, ?_, ?_⟩⟩
  · rw [Bool.or_eq_true, rowFilter_isNothing_iff, groupFilter_isNothing_iff]
  · exact q.select_eq_map tablePrefix
  · exact q.count_eq_map tablePrefix
  · exact q.update_eq_map tablePrefix assignments
  · exact q.delete_eq_map tablePrefix

/-- A branch with an empty list is dropped, an empty negated list is left out of its branch, and the
first clause opens no branch behind the match expression. -/
theorem compiled_filter_branches :
    let q : Query :=
      { index := some "items"
        terms := [⟨.all, "rock", false⟩]
        filter := [⟨.or, .compare "a" "=" (.integer 1)⟩, ⟨.and, .within "b" [] true⟩,
          ⟨.or, .within "c" [] false⟩, ⟨.and, .isNull "d" false⟩, ⟨.or, .isNull "e" true⟩] }
    ¬HoldsNowhere q.terms q.filter ∧
      (∃ tests, (ofClauses q.terms q.filter).Writes
        (formula writtenMatch Condition.written q.terms q.filter) tests) ∧
      (q.delete "rt_").map Statement.sql =
        .ok "DELETE FROM rt_items WHERE MATCH(?) AND a = ? OR e IS NOT NULL" := by
  intro q
  obtain ⟨means, -, _, -, -, deletes⟩ := q.compiled_filter "rt_" []
  have filter := means q.terms q.filter
  have something : (ofClauses q.terms q.filter).isNothing = false := rfl
  have not_silent : ¬(ofClauses q.terms q.filter).IsSilent := fun silent =>
    absurd (silent.2 "WHERE") (by decide)
  refine ⟨fun nowhere => ?_, filter.writes something not_silent, ?_⟩
  · rw [filter.isNothing_iff.mpr nowhere] at something
    cases something
  · rw [deletes]
    rfl

end Query

end SearchQL
