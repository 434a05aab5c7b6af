import SearchQL.Query.Filter
import Mathlib.Data.List.SplitBy

/-!
# Formulas — what a clause list says, before it is compiled

A clause list is read here the way the query language reads it, without the
compiler: it is cut in front of every clause that is joined by `OR`, the pieces
are the branches of a disjunction, and the match expression, if there are match
terms, belongs to the first of them. A list test against no values is a constant.
Every other term is an atom, and atoms are told apart by their place, so two
clauses with the same text are still two atoms.

How an atom is written is left open: a formula holds whatever its two writers make
of a match expression and of a condition. `Condition.written` is the writer with
question marks, as text and values; it is spelled out clause by clause and knows
nothing of the compiler's fragments. `formula_map` says that formulas of two
writers differ in nothing else.

`Filter.kept` is the bridge to the compiler: the branches that can hold, with
the tests that are left in them. `ofClauses_eq` says that the compiler's three
outcomes are three cases of `kept`, and `truth_kept` that dropping the rest
changes no truth value.
-/

namespace SearchQL

/-! ## How a condition is written -/

/-- A text with question marks, and the values that they stand for, in order. -/
structure Written where
  sql : String
  values : List Param
deriving DecidableEq

namespace Condition

/-- The truth of a condition that no row decides: a list test against no values. -/
def constant? : Condition → Option Bool
  | within _ [] negated => some negated
  | multi _ .notWithin [] => some true
  | multi _ _ [] => some false
  | _ => none

/-- A condition with a question mark for each of its values. -/
def written : Condition → Written
  | compare column operator value => ⟨column ++ " " ++ operator ++ " ?", [value]⟩
  | within column values negated =>
    ⟨column ++ (if negated then " NOT IN " else " IN ") ++ Fragment.tupleText values.length, values⟩
  | between column low high negated =>
    ⟨column ++ (if negated then " NOT BETWEEN " else " BETWEEN ") ++ "? AND ?", [low, high]⟩
  | isNull column negated => ⟨column ++ (if negated then " IS NOT NULL" else " IS NULL"), []⟩
  | multi column operator values =>
    let list := Fragment.tupleText values.length
    let sql :=
      match operator with
      | .within => column ++ " IN " ++ list
      | .notWithin => column ++ " NOT IN " ++ list
      | .any => "ANY(" ++ column ++ ") IN " ++ list
      | .all => "ALL(" ++ column ++ ") IN " ++ list
      | .other text => column ++ " " ++ text ++ " " ++ list
    ⟨sql, values.map .integer⟩

end Condition

namespace Filter

variable {α : Type}

/-! ## The formula of a clause list -/

/-- What the truth of a filter can depend on: the match expression, and each condition by the
place of its clause. -/
inductive Atom where
  | expression
  | condition (place : Nat)
deriving DecidableEq, Repr

/-- A term of a formula: a truth value, or an atom with the way it is written. -/
inductive Operand (α : Type) where
  | constant (value : Bool)
  | test (atom : Atom) (written : α)
deriving DecidableEq, Repr

/-- The truth of a term under an assignment. -/
def Operand.holds (v : Atom → Bool) : Operand α → Bool
  | constant value => value
  | test atom _ => v atom

/-- The term of a clause at its place. -/
def operand (write : Condition → α) (clause : Clause × Nat) : Operand α :=
  match clause.1.condition.constant? with
  | some value => .constant value
  | none => .test (.condition clause.2) (write clause.1.condition)

/-- Whether a clause stays in the branch of the one before it. -/
def staysInBranch (_ next : Clause × Nat) : Bool := next.1.joiner == .and

/-- The clauses with their places, cut in front of every clause but the first that is joined by
`OR`. -/
def segments (clauses : List Clause) : List (List (Clause × Nat)) :=
  clauses.zipIdx.splitBy staysInBranch

/-- The match expression as a term of the first branch: all match terms are one atom, and without
match terms there is none. -/
def opening (writeMatch : String → α) (terms : List MatchTerm) : List (Operand α) :=
  if terms = [] then []
  else [.test .expression (writeMatch (" ".intercalate (terms.map MatchTerm.group)))]

/-- What match terms and a clause list say: a disjunction of conjunctions. -/
def formula (writeMatch : String → α) (write : Condition → α) (terms : List MatchTerm)
    (clauses : List Clause) : List (List (Operand α)) :=
  let branches := (segments clauses).map (·.map (operand write))
  (opening writeMatch terms ++ branches.headD []) :: branches.tail

/-- The truth of a disjunction of conjunctions under an assignment. -/
def truth (v : Atom → Bool) (branches : List (List (Operand α))) : Bool :=
  branches.any fun branch => branch.all (·.holds v)

/-- The match expression with a question mark. -/
def writtenMatch (expression : String) : Written := ⟨"MATCH(?)", [.text expression]⟩

/-- The text of a disjunction of conjunctions of tests, behind a keyword. -/
def disjunctionText (keyword : String) (branches : List (List String)) : String :=
  " " ++ keyword ++ " " ++ " OR ".intercalate (branches.map fun tests => " AND ".intercalate tests)

/-! ## One formula, written in two ways -/

/-- A term written in another way. -/
def Operand.map {β : Type} (f : α → β) : Operand α → Operand β
  | constant value => .constant value
  | test atom written => .test atom (f written)

/-- Where one writer is another followed by a function, so are their formulas, term by term. What
the writers make of a constant condition does not matter: it is not written. -/
theorem formula_map {β : Type} {f : α → β} {writeMatch : String → α} {writeMatch' : String → β}
    {write : Condition → α} {write' : Condition → β}
    (expressions : ∀ e, f (writeMatch e) = writeMatch' e)
    (conditions : ∀ c : Condition, c.constant? = none → f (write c) = write' c)
    (terms : List MatchTerm) (clauses : List Clause) :
    (formula writeMatch write terms clauses).map (·.map (Operand.map f)) =
      formula writeMatch' write' terms clauses := by
  have opened : (opening writeMatch terms).map (Operand.map f) = opening writeMatch' terms := by
    unfold opening
    split
    · rfl
    · rw [List.map_singleton, Operand.map, expressions]
  have clause (c : Clause × Nat) : (operand write c).map f = operand write' c := by
    unfold operand
    cases constant : c.1.condition.constant? with
    | some value => rfl
    | none => rw [Operand.map, conditions _ constant]
  have segment (segment : List (Clause × Nat)) :
      (segment.map (operand write)).map (Operand.map f) = segment.map (operand write') := by
    simp only [List.map_map, Function.comp_def, clause]
  unfold formula
  cases segments clauses with
  | nil => simp [opened]
  | cons first others =>
    simp only [List.map_cons, List.headD_cons, List.tail_cons, List.map_append, opened, segment,
      List.map_map, Function.comp_def]

end Filter

/-! ## The compiler's branches are the formula's -/

namespace Condition

/-- What the compiler leaves to the daemon for a condition; for a constant one that is nothing. -/
def fragment (c : Condition) : Fragment := (Filter.test? c.term).getD []

/-- The compiler's term for a condition is its constant or, where it has none, its fragment. -/
theorem term_eq (c : Condition) :
    c.term =
      match c.constant? with
      | some true => .always
      | some false => .never
      | none => .test c.fragment := by
  cases c with
  | compare column operator value => rfl
  | within column values negated => cases values <;> cases negated <;> rfl
  | between column low high negated => rfl
  | isNull column negated => rfl
  | multi column operator values => cases values <;> cases operator <;> rfl

/-- The fragment of a test against a list of values. -/
theorem fragment_of_listTest {c : Condition} {subject : String} {values : List Param}
    (tests : c.term = listTest subject values) :
    c.fragment = .text (subject ++ " ") :: Fragment.tuple values := by
  rw [fragment, tests]
  rfl

theorem within_keyword (negated : Bool) :
    (if negated then " NOT IN " else " IN ") = " " ++ negation negated ++ "IN" ++ " " := by
  cases negated <;> rfl

theorem between_keyword (negated : Bool) :
    (if negated then " NOT BETWEEN " else " BETWEEN ") = " " ++ negation negated ++ "BETWEEN " := by
  cases negated <;> rfl

theorem isNull_keyword (negated : Bool) :
    (if negated then " IS NOT NULL" else " IS NULL") = " IS " ++ negation negated ++ "NULL" := by
  cases negated <;> rfl

/-- What stands before a list and the list, with each keyword in one piece. -/
theorem multiSubject_append (column list : String) (operator : MultiOperator) :
    multiSubject column operator ++ " " ++ list =
      match operator with
      | .within => column ++ " IN " ++ list
      | .notWithin => column ++ " NOT IN " ++ list
      | .any => "ANY(" ++ column ++ ") IN " ++ list
      | .all => "ALL(" ++ column ++ ") IN " ++ list
      | .other text => column ++ " " ++ text ++ " " ++ list := by
  have in_keyword : " IN " = " IN" ++ " " := rfl
  have not_in_keyword : " NOT IN " = " NOT IN" ++ " " := rfl
  have closed_keyword : ") IN " = ") IN" ++ " " := rfl
  cases operator <;> simp only [multiSubject, in_keyword, not_in_keyword, closed_keyword,
    String.append_assoc]

end Condition

namespace Filter

variable {α : Type}

/-- The compiler's term for a term of a formula. -/
def Operand.term : Operand Fragment → Term
  | constant true => .always
  | constant false => .never
  | test _ fragment => .test fragment

/-- What the compiler leaves to the daemon for the match expression. -/
def matchFragment (expression : String) : Fragment :=
  [.text "MATCH(", .value (.text expression), .text ")"]

theorem map_term_opening (terms : List MatchTerm) :
    (opening matchFragment terms).map Operand.term = matchTerms terms := by
  by_cases none : terms = []
  · rw [none]
    rfl
  · rw [opening, if_neg none, matchTerms, MatchTerm.expression?_of_ne_nil none]
    rfl

theorem term_operand (clause : Clause × Nat) :
    (operand Condition.fragment clause).term = clause.1.condition.term := by
  rw [Condition.term_eq]
  unfold operand
  cases clause.1.condition.constant? with
  | none => rfl
  | some value => cases value <;> rfl

/-- Terms in front of the open branch end up in front of the first branch and nowhere else. -/
theorem branchesFrom_append (front opened : List Term) (clauses : List Clause) :
    branchesFrom (front ++ opened) clauses =
      (front ++ (branchesFrom opened clauses).headD []) :: (branchesFrom opened clauses).tail := by
  induction clauses generalizing opened with
  | nil => rfl
  | cons clause rest ih =>
    cases h : clause.joiner with
    | and => simp only [branchesFrom, h, List.append_assoc, ih]
    | or => simp only [branchesFrom, h, List.headD_cons, List.tail_cons]

/-- The cut in front of `OR`, followed clause by clause: what is cut off already stays, and the
rest is what the compiler's walk makes of it. -/
theorem map_splitBy_loop (rest : List (Clause × Nat)) (last : Clause × Nat)
    (opened : List (Clause × Nat)) (done : List (List (Clause × Nat))) :
    (List.splitBy.loop staysInBranch rest last opened done).map
        (·.map fun clause => clause.1.condition.term) =
      done.reverse.map (·.map fun clause => clause.1.condition.term) ++
        branchesFrom ((last :: opened).reverse.map fun clause => clause.1.condition.term)
          (rest.map Prod.fst) := by
  induction rest generalizing last opened done with
  | nil => simp [List.splitBy.loop, branchesFrom]
  | cons next rest ih =>
    cases h : next.1.joiner with
    | and =>
      have stays : staysInBranch last next = true := by simp [staysInBranch, h]
      rw [List.splitBy.loop, stays, ih]
      simp [branchesFrom, h]
    | or =>
      have leaves : staysInBranch last next = false := by simp [staysInBranch, h]
      rw [List.splitBy.loop, leaves, ih]
      simp [branchesFrom, h]

/-- The compiler walks through the branches of the formula. -/
theorem branches_eq (terms : List MatchTerm) (clauses : List Clause) :
    branches (matchTerms terms) clauses =
      (formula matchFragment Condition.fragment terms clauses).map (·.map Operand.term) := by
  have opened := map_term_opening terms
  have cut_operand (cut : List (List (Clause × Nat))) :
      (cut.map (·.map (operand Condition.fragment))).map (·.map Operand.term) =
        cut.map (·.map fun clause => clause.1.condition.term) := by
    simp only [List.map_map, Function.comp_def, term_operand]
  cases clauses with
  | nil => simp [formula, segments, List.splitBy, branches, opened]
  | cons clause rest =>
    have walk := map_splitBy_loop (rest.zipIdx 1) (clause, 0) [] []
    simp only [List.reverse_nil, List.map_nil, List.nil_append, List.reverse_singleton,
      List.map_cons, List.zipIdx_map_fst] at walk
    rw [branches, branchesFrom_append, ← walk, ← cut_operand]
    simp only [formula, segments, List.zipIdx_cons, List.splitBy, Nat.zero_add]
    cases List.splitBy.loop staysInBranch (rest.zipIdx 1) (clause, 0) [] [] with
    | nil => simp [opened]
    | cons first others => simp [opened]

/-! ## The branches that are kept -/

/-- A test with its atom; a constant has none. -/
def Operand.test? : Operand α → Option (Atom × α)
  | constant _ => none
  | test atom written => some (atom, written)

/-- Whether a branch has no false term: whether it holds where every atom does. -/
def canHold (branch : List (Operand α)) : Bool := branch.all (·.holds fun _ => true)

/-- The branches that can hold, each with the tests that are left in it. -/
def kept (branches : List (List (Operand α))) : List (List (Atom × α)) :=
  (branches.filter canHold).map (·.filterMap Operand.test?)

/-- A branch that can hold says what its tests say. -/
theorem all_filterMap_test? (v : Atom → Bool) {branch : List (Operand α)}
    (h : canHold branch = true) :
    ((branch.filterMap Operand.test?).all fun t => v t.1) = branch.all (·.holds v) := by
  induction branch with
  | nil => rfl
  | cons o rest ih =>
    simp only [canHold, List.all_cons, Bool.and_eq_true] at h
    have tail := ih h.2
    cases o with
    | constant value =>
      have value_true : value = true := h.1
      subst value_true
      simpa [Operand.test?, Operand.holds] using tail
    | test atom written => simp [Operand.test?, Operand.holds, tail]

/-- A branch with a false term never holds. -/
theorem all_holds_of_canHold_false (v : Atom → Bool) {branch : List (Operand α)}
    (h : canHold branch = false) : branch.all (·.holds v) = false := by
  simp only [canHold, List.all_eq_false] at h ⊢
  obtain ⟨o, mem, fails⟩ := h
  refine ⟨o, mem, ?_⟩
  cases o with
  | constant value => exact fails
  | test atom written => exact absurd rfl fails

/-- Dropping the branches that cannot hold and the terms that always do changes no truth value. -/
theorem truth_kept (v : Atom → Bool) (branches : List (List (Operand α))) :
    ((kept branches).any fun branch => branch.all fun t => v t.1) = truth v branches := by
  induction branches with
  | nil => rfl
  | cons branch rest ih =>
    have rest_eq : ((kept rest).any fun branch => branch.all fun t => v t.1) = truth v rest := ih
    unfold kept at rest_eq ⊢
    unfold truth at rest_eq ⊢
    cases h : canHold branch with
    | true => simp only [List.filter_cons, h, if_true, List.map_cons, List.any_cons, rest_eq,
        all_filterMap_test? v h]
    | false => simp only [List.filter_cons, h, Bool.false_eq_true, if_false, List.any_cons,
        rest_eq, all_holds_of_canHold_false v h, Bool.false_or]

/-- No branch is kept exactly when the formula holds nowhere. -/
theorem kept_eq_nil_iff (branches : List (List (Operand α))) :
    kept branches = [] ↔ ∀ v, truth v branches = false := by
  constructor
  · intro none v
    rw [← truth_kept, none]
    rfl
  · intro never
    have nowhere := never fun _ => true
    rw [← truth_kept, List.any_eq_false] at nowhere
    refine List.eq_nil_iff_forall_not_mem.mpr fun branch mem => nowhere branch mem ?_
    simp only [List.all_eq_true, implies_true]

/-- A branch is left without tests exactly when it has no false term and no atom. -/
theorem nil_mem_kept_iff (branches : List (List (Operand α))) :
    [] ∈ kept branches ↔ ∃ branch ∈ branches, ∀ o ∈ branch, o = .constant true := by
  simp only [kept, List.mem_map, List.mem_filter, canHold, List.all_eq_true,
    List.filterMap_eq_nil_iff]
  constructor
  · rintro ⟨branch, ⟨mem, can⟩, noTest⟩
    refine ⟨branch, mem, fun o ho => ?_⟩
    cases o with
    | constant value => exact congrArg _ (can _ ho)
    | test atom written => exact absurd (noTest _ ho) (by simp [Operand.test?])
  · rintro ⟨branch, mem, trivial⟩
    refine ⟨branch, ⟨mem, fun o ho => ?_⟩, fun o ho => ?_⟩
    · rw [trivial o ho]
      rfl
    · rw [trivial o ho]
      rfl

theorem canHold_map {β : Type} (f : α → β) (branch : List (Operand α)) :
    canHold (branch.map (Operand.map f)) = canHold branch := by
  simp only [canHold, List.all_map]
  congr 1
  funext o
  cases o <;> rfl

/-- Which branches and tests are kept does not depend on how the tests are written. -/
theorem kept_map {β : Type} (f : α → β) (branches : List (List (Operand α))) :
    kept (branches.map (·.map (Operand.map f))) =
      (kept branches).map (·.map fun t => (t.1, f t.2)) := by
  have same_tests (branch : List (Operand α)) :
      (branch.map (Operand.map f)).filterMap Operand.test? =
        (branch.filterMap Operand.test?).map fun t => (t.1, f t.2) := by
    rw [List.filterMap_map, List.map_filterMap]
    congr 1
    funext o
    cases o <;> rfl
  simp only [kept, List.filter_map, Function.comp_def, canHold_map, List.map_map, same_tests]

/-- What the compiler leaves in its live branches is what is kept. -/
theorem live_eq (branches : List (List (Operand Fragment))) :
    (((branches.map (·.map Operand.term)).filter (.never ∉ ·)).map fun branch =>
        branch.filterMap test?) =
      (kept branches).map (·.map Prod.snd) := by
  have same_branches :
      (fun branch : List Term => decide (.never ∉ branch)) ∘ (·.map Operand.term) = canHold := by
    funext branch
    rw [Bool.eq_iff_iff]
    simp only [Function.comp_apply, decide_eq_true_eq, canHold, List.all_eq_true, List.mem_map,
      not_exists, not_and]
    refine forall_congr' fun o => forall_congr' fun _ => ?_
    cases o with
    | constant value => cases value <;> simp [Operand.term, Operand.holds]
    | test atom written => simp [Operand.term, Operand.holds]
  have same_tests (branch : List (Operand Fragment)) :
      (branch.map Operand.term).filterMap test? =
        (branch.filterMap Operand.test?).map Prod.snd := by
    rw [List.filterMap_map, List.map_filterMap]
    congr 1
    funext o
    cases o with
    | constant value => cases value <;> rfl
    | test atom written => rfl
  simp only [List.filter_map, same_branches, List.map_map, kept, Function.comp_def, same_tests]

/-- The three outcomes of the compiler are three cases of what is kept. -/
theorem ofClauses_eq (terms : List MatchTerm) (clauses : List Clause) :
    ofClauses terms clauses =
      let left := kept (formula matchFragment Condition.fragment terms clauses)
      if left = [] then nothing
      else if [] ∈ left then everything
      else anyOf (left.map (·.map Prod.snd)) := by
  simp only [ofClauses, ofBranches, branches_eq, live_eq, List.isEmpty_map, List.isEmpty_iff,
    List.any_map, Function.comp_def, List.any_eq_true, exists_eq_right]

end Filter

end SearchQL
