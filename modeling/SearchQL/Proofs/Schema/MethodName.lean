import SearchQL.Proofs.Schema.History
import SearchQL.Proofs.Schema.Refusal

/-!
# Method names — a column declared by a method or by the method's name

A column can be declared by the typed method of its kind or by the name of that
method. Two tables answer, `ColumnMethod.kind` for the method and
`ColumnKind.ofName` for the name, and neither is made from the other. This module
compares them entry by entry and then run by run.

The tables disagree on the methods that have no entry under their name
(`unlisted`). The method refuses such a column for a feature that the daemon
lacks; the name is reported as no column type at all, and nothing is counted. On
all other methods they agree, so two runs of the same declarations come to the
same exactly if no unlisted method is among them
(`run_typed_eq_run_named_iff`).

The columns and statements agree in any case. What carries the induction is
that both ways leave the same change set behind at every step, also where their
errors differ.
-/

namespace SearchQL

/-! ## The two tables -/

/-- What declares one column: a method for columns of some kind, or the method for generated
columns. -/
inductive ColumnConstructor where
  | method (m : ColumnMethod)
  | computed
deriving DecidableEq, Repr

namespace ColumnConstructor

/-- The name of a constructor. -/
def name : ColumnConstructor → String
  | method m => m.name
  | computed => RefusedChange.computed.name

/-- The kind that a constructor declares, or the feature that it lacks. -/
def kind : ColumnConstructor → Except Feature ColumnKind
  | method m => m.kind
  | computed => .error RefusedChange.computed.feature

/-- The constructors that the table of names leaves out. -/
def unlisted : List ColumnConstructor := [method .integerIncrements, computed]

/-- A listed name resolves to what its constructor declares. -/
theorem ofName_name_of_listed {c : ColumnConstructor} (listed : c ∉ unlisted) :
    ColumnKind.ofName c.name = c.kind.mapError Error.unsupported := by
  cases c with
  | computed => exact absurd (List.mem_of_mem_tail (List.mem_singleton_self _)) listed
  | method m =>
    cases m with
    | supported kind => cases kind <;> rfl
    | integerIncrements => exact absurd List.mem_cons_self listed
    | _ => rfl

/-- An unlisted name is no column type, and its constructor is refused. -/
theorem ofName_name_of_unlisted {c : ColumnConstructor} (missing : c ∈ unlisted) :
    ColumnKind.ofName c.name = .error (.request (.unknownColumnType c.name)) ∧
      ∃ feature, c.kind = .error feature := by
  rw [unlisted, List.mem_cons, List.mem_singleton] at missing
  rcases missing with rfl | rfl
  · exact ⟨rfl, .autoIncrement, rfl⟩
  · exact ⟨rfl, .computedColumn, rfl⟩

end ColumnConstructor

/-! ## One declaration -/

/-- The declaration of a column. -/
structure ColumnDeclaration where
  constructor : ColumnConstructor
  column : String
  attributes : List ColumnAttribute := []

namespace ColumnDeclaration

/-- A declaration by its method. -/
def typed (d : ColumnDeclaration) : ChangeCall :=
  match d.constructor with
  | .method m => .declare m d.column d.attributes
  | .computed => .refused .computed

/-- A declaration by the name of its method. -/
def named (d : ColumnDeclaration) : ChangeCall :=
  .declareNamed d.constructor.name d.column d.attributes

/-- The column that a declaration adds, if the daemon can store it. -/
def added? (d : ColumnDeclaration) : Option ColumnDefinition :=
  d.constructor.kind.toOption.map fun kind => .declare d.column kind d.attributes

variable {d : ColumnDeclaration}

theorem apply_typed (d : ColumnDeclaration) (s : ChangeSet) :
    d.typed.apply s =
      s.declareColumn (d.constructor.kind.mapError Error.unsupported) d.column d.attributes := by
  obtain ⟨c, column, attributes⟩ := d
  cases c <;> rfl

theorem apply_named (d : ColumnDeclaration) (s : ChangeSet) :
    d.named.apply s =
      s.declareColumn (ColumnKind.ofName d.constructor.name) d.column d.attributes :=
  rfl

theorem apply_named_of_listed (listed : d.constructor ∉ ColumnConstructor.unlisted)
    (s : ChangeSet) : d.named.apply s = d.typed.apply s := by
  rw [apply_typed, apply_named, ColumnConstructor.ofName_name_of_listed listed]

theorem apply_named_of_unlisted (missing : d.constructor ∈ ColumnConstructor.unlisted)
    (s : ChangeSet) :
    d.named.apply s = (.error (.request (.unknownColumnType d.constructor.name)), s) := by
  rw [apply_named, (ColumnConstructor.ofName_name_of_unlisted missing).1]
  rfl

end ColumnDeclaration

/-! ## Runs -/

namespace ChangeSet

/-- A change set after a call, whether the call is rejected or not. -/
def after (s : ChangeSet) (call : ChangeCall) : ChangeSet := (call.apply s).2

/-- How each of several calls ends. -/
def outcomes (s : ChangeSet) : List ChangeCall → List (Except Error Unit)
  | [] => []
  | call :: rest => (call.apply s).1 :: outcomes (s.after call) rest

/-- A script that goes on whatever fails comes to the change set after its calls, and to their
errors. -/
theorem runScript_tolerated_eq (calls : List ChangeCall) :
    ∀ s : ChangeSet, (s.runScript (History.tolerated calls)).outcome = .ok () ∧
      (s.runScript (History.tolerated calls)).changes = calls.foldl after s ∧
      s.scriptErrors (History.tolerated calls) = (s.outcomes calls).flatMap Error.ofOutcome := by
  induction calls with
  | nil =>
    intro s
    exact ⟨rfl, rfl, rfl⟩
  | cons call rest ih =>
    intro s
    rw [History.tolerated, List.map_cons, runScript, scriptErrors, List.foldl_cons, outcomes, after]
    rcases call.apply s with ⟨e | _, s'⟩
    · obtain ⟨done, changes, errors⟩ := ih s'
      exact ⟨done, changes, congrArg (e :: ·) errors⟩
    · exact ih s'

end ChangeSet

/-- What calls on a fresh change set come to. -/
structure ChangeRun where
  /-- How each call ended. -/
  outcomes : List (Except Error Unit)
  columns : Except Error (List (String × WireType))
  statements : Except Error (List String)
  /-- How often each feature was refused, by the calls and by the compilation. -/
  refusals : Feature → Nat

/-- Makes calls on a fresh change set, going on whatever fails, and compiles what is declared. -/
def ChangeRun.of (tablePrefix table : String) (calls : List ChangeCall) : ChangeRun :=
  let ran := ({ table } : ChangeSet).runScript (History.tolerated calls)
  let compiled := ran.outcome.bind fun _ => ran.changes.statements tablePrefix
  { outcomes := ({ table } : ChangeSet).outcomes calls
    columns := ran.outcome.map fun _ => ran.changes.columns.map fun c => (c.name, c.kind.wire)
    statements := compiled
    refusals := fun feature =>
      (ran.notes ++ (Error.ofOutcome compiled).flatMap Error.refusals).count (.refusal feature) }

/-! ## Runs of declarations -/

namespace ColumnDeclaration

/-- How a declaration by its method ends. -/
def typedOutcome (d : ColumnDeclaration) : Except Error Unit :=
  (d.constructor.kind.mapError Error.unsupported).map fun _ => ()

/-- How a declaration by the name of its method ends. -/
def namedOutcome (d : ColumnDeclaration) : Except Error Unit :=
  if d.constructor ∈ ColumnConstructor.unlisted then
    .error (.request (.unknownColumnType d.constructor.name))
  else d.typedOutcome

/-- The feature that only the method of a declaration is refused for. -/
def uncounted? (d : ColumnDeclaration) : Option Feature :=
  if d.constructor ∈ ColumnConstructor.unlisted then
    match d.constructor.kind with
    | .ok _ => none
    | .error feature => some feature
  else none

theorem outcome_apply_typed (d : ColumnDeclaration) (s : ChangeSet) :
    (d.typed.apply s).1 = d.typedOutcome := by
  rw [apply_typed, typedOutcome]
  cases d.constructor.kind <;> rfl

theorem outcome_apply_named (d : ColumnDeclaration) (s : ChangeSet) :
    (d.named.apply s).1 = d.namedOutcome := by
  rw [namedOutcome]
  split
  · next missing => rw [apply_named_of_unlisted missing]
  · next listed => rw [apply_named_of_listed listed, outcome_apply_typed]

/-- The outcomes differ where the tables do. -/
theorem typedOutcome_eq_namedOutcome_iff (d : ColumnDeclaration) :
    d.typedOutcome = d.namedOutcome ↔ d.constructor ∉ ColumnConstructor.unlisted := by
  constructor
  · intro same missing
    obtain ⟨-, feature, refused⟩ := ColumnConstructor.ofName_name_of_unlisted missing
    rw [namedOutcome, if_pos missing, typedOutcome, refused] at same
    cases same
  · intro listed
    rw [namedOutcome, if_neg listed]

theorem map_typedOutcome_eq_iff (declarations : List ColumnDeclaration) :
    declarations.map typedOutcome = declarations.map namedOutcome ↔
      ∀ d ∈ declarations, d.constructor ∉ ColumnConstructor.unlisted := by
  rw [List.map_inj_left]
  exact forall_congr' fun d => imp_congr_right fun _ => d.typedOutcome_eq_namedOutcome_iff

/-- A declaration by its method adds its column, if there is one. -/
theorem after_typed (d : ColumnDeclaration) (s : ChangeSet) :
    s.after d.typed = s.addColumns d.added?.toList := by
  rw [ChangeSet.after, apply_typed, added?]
  cases d.constructor.kind with
  | ok kind => rfl
  | error feature =>
    show s = { s with columns := s.columns ++ [] }
    rw [List.append_nil]

/-- Both ways of a declaration leave the same change set behind. -/
theorem after_named (d : ColumnDeclaration) (s : ChangeSet) :
    s.after d.named = s.after d.typed := by
  by_cases missing : d.constructor ∈ ColumnConstructor.unlisted
  · obtain ⟨-, feature, refused⟩ := ColumnConstructor.ofName_name_of_unlisted missing
    rw [ChangeSet.after, ChangeSet.after, apply_named_of_unlisted missing, apply_typed, refused]
    rfl
  · rw [ChangeSet.after, ChangeSet.after, apply_named_of_listed missing]

theorem foldl_after_typed (declarations : List ColumnDeclaration) :
    ∀ s : ChangeSet, (declarations.map typed).foldl ChangeSet.after s =
      s.addColumns (declarations.filterMap added?) := by
  induction declarations with
  | nil =>
    intro s
    show s = { s with columns := s.columns ++ [] }
    rw [List.append_nil]
  | cons d rest ih =>
    intro s
    rw [List.map_cons, List.foldl_cons, after_typed, ih, ChangeSet.addColumns, ChangeSet.addColumns,
      List.append_assoc, ChangeSet.addColumns, List.filterMap_cons]
    cases d.added? <;> rfl

theorem foldl_after_named (declarations : List ColumnDeclaration) :
    ∀ s : ChangeSet, (declarations.map named).foldl ChangeSet.after s =
      (declarations.map typed).foldl ChangeSet.after s := by
  induction declarations with
  | nil =>
    intro s
    rfl
  | cons d rest ih =>
    intro s
    rw [List.map_cons, List.map_cons, List.foldl_cons, List.foldl_cons, after_named, ih]

theorem outcomes_typed (declarations : List ColumnDeclaration) :
    ∀ s : ChangeSet, s.outcomes (declarations.map typed) = declarations.map typedOutcome := by
  induction declarations with
  | nil =>
    intro s
    rfl
  | cons d rest ih =>
    intro s
    rw [List.map_cons, ChangeSet.outcomes, outcome_apply_typed, ih, List.map_cons]

theorem outcomes_named (declarations : List ColumnDeclaration) :
    ∀ s : ChangeSet, s.outcomes (declarations.map named) = declarations.map namedOutcome := by
  induction declarations with
  | nil =>
    intro s
    rfl
  | cons d rest ih =>
    intro s
    rw [List.map_cons, ChangeSet.outcomes, outcome_apply_named, ih, List.map_cons]

/-- The methods are refused as often as the names, and once more for each unlisted one. -/
theorem count_errors (declarations : List ColumnDeclaration) (feature : Feature) :
    ((declarations.map typedOutcome).flatMap Error.ofOutcome).count (.unsupported feature) =
      ((declarations.map namedOutcome).flatMap Error.ofOutcome).count (.unsupported feature) +
        (declarations.filterMap uncounted?).count feature := by
  induction declarations with
  | nil => rfl
  | cons d rest ih =>
    rw [List.map_cons, List.map_cons, List.flatMap_cons, List.flatMap_cons, List.filterMap_cons]
    by_cases missing : d.constructor ∈ ColumnConstructor.unlisted
    · obtain ⟨-, other, refused⟩ := ColumnConstructor.ofName_name_of_unlisted missing
      rw [namedOutcome, if_pos missing, uncounted?, if_pos missing, typedOutcome, refused]
      show (Error.unsupported other :: (rest.map typedOutcome).flatMap Error.ofOutcome).count
          (.unsupported feature) =
        (Error.request _ :: (rest.map namedOutcome).flatMap Error.ofOutcome).count
          (.unsupported feature) + (other :: rest.filterMap uncounted?).count feature
      have unrequested : (Error.request (.unknownColumnType d.constructor.name) ==
          Error.unsupported feature) = false := beq_eq_false_iff_ne.mpr nofun
      have counted :
          (Error.unsupported other == Error.unsupported feature) = (other == feature) := by
        rw [Bool.eq_iff_iff, beq_iff_eq, beq_iff_eq, Error.unsupported.injEq]
      rw [List.count_cons, List.count_cons, List.count_cons, ih, unrequested, counted,
        if_neg Bool.false_ne_true]
      omega
    · rw [(typedOutcome_eq_namedOutcome_iff d).mpr missing, uncounted?, if_neg missing]
      rw [List.count_append, List.count_append, ih, Nat.add_assoc]

end ColumnDeclaration

/-! ## The comparison -/

namespace ChangeRun

variable (tablePrefix table : String)

/-- What calls come to, read off the change set after them and the errors on the way. -/
theorem of_eq (calls : List ChangeCall) :
    let made := calls.foldl ChangeSet.after { table }
    let compiled := made.statements tablePrefix
    of tablePrefix table calls =
      { outcomes := ({ table } : ChangeSet).outcomes calls
        columns := .ok (made.columns.map fun c => (c.name, c.kind.wire))
        statements := compiled
        refusals := fun feature =>
          ((({ table } : ChangeSet).outcomes calls).flatMap Error.ofOutcome).count
              (.unsupported feature) +
            (Error.ofOutcome compiled).count (.unsupported feature) } := by
  intro made compiled
  obtain ⟨done, changes, errors⟩ := ChangeSet.runScript_tolerated_eq calls { table }
  rw [of, done, changes]
  simp only [List.count_append, ChangeSet.count_runScript, errors, Error.count_flatMap_refusals]
  rfl

/-- Declaring by the methods and by their names comes to the same exactly if every method is listed.
In any case the columns are those that the daemon can store, with the same statements; what differs
is the error of each unlisted method, which is counted as a refusal of the method only. -/
theorem run_typed_eq_run_named_iff (declarations : List ColumnDeclaration) :
    let typed := of tablePrefix table (declarations.map ColumnDeclaration.typed)
    let named := of tablePrefix table (declarations.map ColumnDeclaration.named)
    (typed = named ↔ ∀ d ∈ declarations, d.constructor ∉ ColumnConstructor.unlisted) ∧
    typed.outcomes = declarations.map ColumnDeclaration.typedOutcome ∧
    named.outcomes = declarations.map ColumnDeclaration.namedOutcome ∧
    (typed.columns = .ok ((declarations.filterMap ColumnDeclaration.added?).map fun c =>
      (c.name, c.kind.wire))) ∧
    typed.columns = named.columns ∧
    typed.statements = named.statements ∧
    ∀ feature, typed.refusals feature = named.refusals feature +
      (declarations.filterMap ColumnDeclaration.uncounted?).count feature := by
  intro typed named
  have typed_eq : typed = _ := of_eq tablePrefix table _
  have named_eq : named = _ := of_eq tablePrefix table _
  rw [ColumnDeclaration.foldl_after_named] at named_eq
  rw [ColumnDeclaration.outcomes_typed] at typed_eq
  rw [ColumnDeclaration.outcomes_named] at named_eq
  refine ⟨⟨fun same => ?_, fun listed => ?_⟩, ?_, ?_, ?_, ?_, ?_, fun feature => ?_⟩
  · rw [typed_eq, named_eq] at same
    exact (ColumnDeclaration.map_typedOutcome_eq_iff declarations).mp (congrArg outcomes same)
  · rw [typed_eq, named_eq, (ColumnDeclaration.map_typedOutcome_eq_iff declarations).mpr listed]
  · rw [typed_eq]
  · rw [named_eq]
  · rw [typed_eq, ColumnDeclaration.foldl_after_typed]
    rfl
  · rw [typed_eq, named_eq]
  · rw [typed_eq, named_eq]
  · rw [typed_eq, named_eq]
    show _ + _ = _ + _ + _
    rw [ColumnDeclaration.count_errors declarations feature]
    omega

/-- By its method an auto-increment column is refused, and the refusal is counted. By the name of
the method it is an unknown column type. -/
theorem run_named_integerIncrements :
    let d : ColumnDeclaration := { constructor := .method .integerIncrements, column := "c" }
    let typed := of "" "rt" [d.typed]
    let named := of "" "rt" [d.named]
    typed.outcomes = [.error (.unsupported .autoIncrement)] ∧
    named.outcomes = [.error (.request (.unknownColumnType "integerIncrements"))] ∧
    typed.refusals .autoIncrement = 1 ∧ named.refusals .autoIncrement = 0 :=
  ⟨rfl, rfl, rfl, rfl⟩

end ChangeRun

end SearchQL
