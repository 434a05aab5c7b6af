import SearchQL.Schema.Script

/-!
# Histories — a schema change read off its calls

A change set is a state that calls change one after the other. This module says
what it compiles to without the state, by looking at the calls alone: a column
stays if no later call removes its name, every dropped name is dropped, and of
the commands added by name only the two that name a missing feature matter.

A call that is rejected declares nothing, drops nothing and removes nothing, so
a history with rejected calls compiles like the history without them. `Rejected`
lists the calls that are; no other call fails. Which typed methods are rejected,
and for which feature, is a table of this module (`ColumnMethod.lacking`), held
against the methods in `kind_eq`.

The run lemma is `runScript_tolerated`. It is an induction over the calls from
the front, with the change set that they meet left general: what a later call
removes of it has to be said before that call is reached.
-/

namespace SearchQL

/-! ## What calls declare -/

/-- A column as a history declares it. -/
structure DeclaredColumn where
  name : String
  kind : ColumnKind
  /-- Whether it was marked as a change to an existing column. -/
  marked : Bool
deriving DecidableEq, Repr

/-- Whether an attribute marks its column as a change to an existing one. -/
def ColumnAttribute.marks : ColumnAttribute → Bool
  | change => true
  | _ => false

/-- What a column of a change set says about its statement. -/
def ColumnDefinition.declared (c : ColumnDefinition) : DeclaredColumn := ⟨c.name, c.kind, c.change⟩

theorem ColumnDefinition.declared_foldl_set (attributes : List ColumnAttribute) :
    ∀ c : ColumnDefinition, (attributes.foldl set c).declared =
      ⟨c.name, c.kind, c.change || attributes.any ColumnAttribute.marks⟩ := by
  induction attributes with
  | nil =>
    intro c
    rw [List.foldl_nil, List.any_nil, Bool.or_false]
    rfl
  | cons a attributes ih =>
    intro c
    rw [List.foldl_cons, ih, List.any_cons, ← Bool.or_assoc]
    cases a with
    | change => simp [set, ColumnAttribute.marks]
    | _ => simp only [set, ColumnAttribute.marks, Bool.or_false]

/-- A column is marked if one of its attributes marks it. -/
theorem ColumnDefinition.declared_declare (name : String) (kind : ColumnKind)
    (attributes : List ColumnAttribute) :
    (declare name kind attributes).declared =
      ⟨name, kind, attributes.any ColumnAttribute.marks⟩ := by
  rw [declare, declared_foldl_set]
  rfl

namespace ColumnMethod

/-- The features of columns that the daemon lacks, each with the methods that ask for it. -/
def lacking : List (Feature × List ColumnMethod) :=
  [(.autoIncrement, [increments, tinyIncrements, smallIncrements, mediumIncrements,
      integerIncrements, bigIncrements, id]),
    (.enumColumn, [enumeration]),
    (.dateColumn, [date]),
    (.timeColumn, [time, timeTz]),
    (.yearColumn, [year]),
    (.binaryColumn, [binary]),
    (.uuidColumn, [uuid, foreignUuid]),
    (.ipAddressColumn, [ipAddress]),
    (.macAddressColumn, [macAddress]),
    (.geometryColumn, [geometry, point, lineString, polygon, geometryCollection, multiPoint,
      multiLineString, multiPolygon]),
    (.polymorphicColumn, [morphs, nullableMorphs, uuidMorphs, nullableUuidMorphs]),
    (.rememberToken, [rememberToken]),
    (.foreignKey, [foreignId])]

/-- The feature that a method asks for and the daemon lacks. -/
def lacks? (method : ColumnMethod) : Option Feature :=
  (lacking.find? fun row => method ∈ row.2).map (·.1)

/-- The kind that a method declares if the daemon can store it. -/
def stores? : ColumnMethod → Option ColumnKind
  | supported kind => some kind
  | _ => none

/-- A method has a kind, or lacks a feature. -/
theorem kind_eq (method : ColumnMethod) :
    (∃ kind, method.kind = .ok kind ∧ method.stores? = some kind ∧ method.lacks? = none) ∨
      ∃ feature, method.kind = .error feature ∧ method.stores? = none ∧
        method.lacks? = some feature := by
  cases method with
  | supported kind => exact .inl ⟨kind, rfl, rfl, rfl⟩
  | _ => exact .inr ⟨_, rfl, rfl, rfl⟩

end ColumnMethod

namespace ChangeCall

/-- The calls that are rejected, and why. -/
inductive Rejected : ChangeCall → Error → Prop
  /-- A typed method of a kind of column that the daemon cannot store. -/
  | column {method : ColumnMethod} {name : String} {attributes : List ColumnAttribute}
      {feature : Feature} : method.lacks? = some feature →
      Rejected (declare method name attributes) (.unsupported feature)
  /-- A method name that resolves to no kind of column. -/
  | name {method name : String} {attributes : List ColumnAttribute} {e : Error} :
      ColumnKind.ofName method = .error e → Rejected (declareNamed method name attributes) e
  /-- A change that the daemon has no statement for. -/
  | change {change : RefusedChange} : Rejected (refused change) (.unsupported change.feature)

/-- The columns that a call declares, in order. -/
def declares : ChangeCall → List DeclaredColumn
  | declare method name attributes =>
    match method.stores? with
    | some kind => [⟨name, kind, attributes.any ColumnAttribute.marks⟩]
    | none => []
  | declareNamed method name attributes =>
    match ColumnKind.ofName method with
    | .ok kind => [⟨name, kind, attributes.any ColumnAttribute.marks⟩]
    | .error _ => []
  | declareKind kind name attributes => [⟨name, kind, attributes.any ColumnAttribute.marks⟩]
  | timestamps => [⟨"created_at", .timestamp, false⟩, ⟨"updated_at", .timestamp, false⟩]
  | softDeletes column attributes =>
    [⟨column.getD "__soft_deleted", .boolean, attributes.any ColumnAttribute.marks⟩]
  | _ => []

/-- The names that a call drops, in order. -/
def drops : ChangeCall → List String
  | dropColumns columns => columns
  | dropTimestamps => ["created_at", "updated_at"]
  | dropSoftDeletes column => [column.getD "__soft_deleted"]
  | _ => []

/-- Whether a call removes the pending columns of a name. -/
def removes (name : String) : ChangeCall → Bool
  | removeColumn column => name = column
  | _ => false

/-- The commands that a call adds by name. -/
def named : ChangeCall → List Command
  | addCommand name columns => [.named name columns]
  | _ => []

/-- The feature that a command added by name asks for, if the name is one of the two that do. -/
def asksFor? : ChangeCall → Option Feature
  | addCommand "dropForeign" _ => some .foreignKey
  | addCommand "renameColumn" _ => some .renameColumn
  | _ => none

/-- The commands that a call adds, in order. -/
def commands (call : ChangeCall) : List Command := call.drops.map .drop ++ call.named

end ChangeCall

/-- The columns of a change set, as a history would declare them. -/
def ChangeSet.declared (s : ChangeSet) : List DeclaredColumn :=
  s.columns.map ColumnDefinition.declared

/-! ## One call -/

/-- What a call makes of a change set. -/
structure ChangeCall.Effect (call : ChangeCall) (s s' : ChangeSet) : Prop where
  table : s'.table = s.table
  declared : s'.declared = (s.declared.filter fun c => !call.removes c.name) ++ call.declares
  commands : s'.commands = s.commands ++ call.commands

/-- A call that removes nothing only adds. -/
theorem ChangeCall.Effect.of_keeps {call : ChangeCall} {s s' : ChangeSet}
    (keeps : ∀ name, call.removes name = false) (table : s'.table = s.table)
    (declared : s'.declared = s.declared ++ call.declares)
    (commands : s'.commands = s.commands ++ call.commands) : call.Effect s s' := by
  refine ⟨table, ?_, commands⟩
  rw [declared, List.filter_eq_self.mpr fun c _ => by rw [keeps, Bool.not_false]]

namespace ChangeSet

theorem effect_addColumns (s : ChangeSet) {call : ChangeCall} {columns : List ColumnDefinition}
    (declares : columns.map ColumnDefinition.declared = call.declares)
    (keeps : ∀ name, call.removes name = false) (adds : call.commands = []) :
    call.Effect s (s.addColumns columns) := by
  refine .of_keeps keeps rfl ?_ ?_
  · rw [declared, addColumns, List.map_append, declares]
    rfl
  · rw [adds, List.append_nil]
    rfl

theorem effect_addCommands (s : ChangeSet) {call : ChangeCall} {commands : List Command}
    (adds : commands = call.commands) (keeps : ∀ name, call.removes name = false)
    (declares : call.declares = []) : call.Effect s (s.addCommands commands) := by
  refine .of_keeps keeps rfl ?_ ?_
  · rw [declares, List.append_nil]
    rfl
  · rw [← adds]
    rfl

/-- Removing a name takes away the columns of that name and nothing else. -/
theorem effect_removeColumn (s : ChangeSet) (name : String) :
    (ChangeCall.removeColumn name).Effect s
      { s with columns := s.columns.filter (·.name ≠ name) } := by
  have same : ∀ c ∈ s.columns,
      decide (c.name ≠ name) = !(ChangeCall.removeColumn name).removes c.declared.name :=
    fun _ _ => decide_not
  refine ⟨rfl, ?_, (List.append_nil _).symm⟩
  calc (s.columns.filter (·.name ≠ name)).map ColumnDefinition.declared
      = s.declared.filter (fun c => !(ChangeCall.removeColumn name).removes c.name) := by
        rw [declared, List.filter_map]
        exact congrArg _ (List.filter_congr same)
    _ = _ := (List.append_nil _).symm

end ChangeSet

namespace ChangeCall

/-- A rejected call declares, drops, removes and adds nothing. -/
theorem Rejected.effect_self {call : ChangeCall} {e : Error} (h : call.Rejected e)
    (s : ChangeSet) : call.Effect s s := by
  have idle : call.declares = [] ∧ call.commands = [] ∧ ∀ name, call.removes name = false := by
    cases h with
    | @column method name attributes feature lacks =>
      have unstored : method.stores? = none := by
        rcases method.kind_eq with ⟨_, -, -, none⟩ | ⟨_, -, unstored, -⟩
        · rw [none] at lacks
          cases lacks
        · exact unstored
      simp [declares, commands, drops, named, removes, unstored]
    | name unresolved => simp [declares, commands, drops, named, removes, unresolved]
    | change => simp [declares, commands, drops, named, removes]
  obtain ⟨declares, adds, keeps⟩ := idle
  refine .of_keeps keeps rfl ?_ ?_
  · rw [declares, List.append_nil]
  · rw [adds, List.append_nil]

/-- A column of a kind is added at the end. -/
theorem effect_declareColumn (s : ChangeSet) {call : ChangeCall} {kind : ColumnKind}
    {column : String} {attributes : List ColumnAttribute}
    (declares : call.declares = [⟨column, kind, attributes.any ColumnAttribute.marks⟩])
    (keeps : ∀ name, call.removes name = false) (adds : call.commands = []) :
    call.Effect s (s.declareColumn (.ok kind) column attributes).2 := by
  refine s.effect_addColumns ?_ keeps adds
  rw [declares, List.map_singleton, ColumnDefinition.declared_declare]

/-- Everything that a call can do: it is rejected and leaves the change set as it was, or it ends
well and has its effect. -/
theorem apply_cases (s : ChangeSet) (call : ChangeCall) :
    (∃ e, call.Rejected e ∧ call.apply s = (.error e, s)) ∨
      ∃ s', call.apply s = (.ok (), s') ∧ call.Effect s s' := by
  cases call with
  | declare method name attributes =>
    rcases method.kind_eq with ⟨kind, resolved, stored, -⟩ | ⟨feature, resolved, -, lacks⟩
    · refine .inr ⟨_, by rw [apply, resolved]; rfl,
        effect_declareColumn s ?_ (fun _ => rfl) rfl⟩
      rw [declares, stored]
    · exact .inl ⟨_, .column lacks, by rw [apply, resolved]; rfl⟩
  | declareNamed method name attributes =>
    cases resolved : ColumnKind.ofName method with
    | error e => exact .inl ⟨e, .name resolved, by rw [apply, resolved]; rfl⟩
    | ok kind =>
      refine .inr ⟨_, by rw [apply, resolved]; rfl, effect_declareColumn s ?_ (fun _ => rfl) rfl⟩
      rw [declares, resolved]
  | declareKind kind name attributes =>
    exact .inr ⟨_, rfl, effect_declareColumn s rfl (fun _ => rfl) rfl⟩
  | timestamps => exact .inr ⟨_, rfl, s.effect_addColumns rfl (fun _ => rfl) rfl⟩
  | softDeletes column attributes =>
    exact .inr ⟨_, rfl, effect_declareColumn s rfl (fun _ => rfl) rfl⟩
  | removeColumn column =>
    exact .inr ⟨_, rfl, s.effect_removeColumn column⟩
  | dropColumns columns =>
    exact .inr ⟨_, rfl, s.effect_addCommands (List.append_nil _).symm (fun _ => rfl) rfl⟩
  | dropTimestamps => exact .inr ⟨_, rfl, s.effect_addCommands rfl (fun _ => rfl) rfl⟩
  | dropSoftDeletes column => exact .inr ⟨_, rfl, s.effect_addCommands rfl (fun _ => rfl) rfl⟩
  | addCommand name columns => exact .inr ⟨_, rfl, s.effect_addCommands rfl (fun _ => rfl) rfl⟩
  | refused change => exact .inl ⟨_, .change, rfl⟩

/-- A call that is rejected fails, and nothing else comes of it. -/
theorem apply_of_rejected {call : ChangeCall} {e : Error} (rejected : call.Rejected e)
    (s : ChangeSet) : call.apply s = (.error e, s) := by
  cases rejected with
  | @column method name attributes feature lacks =>
    rcases method.kind_eq with ⟨_, -, -, none⟩ | ⟨_, resolved, -, lacks'⟩
    · rw [none] at lacks
      cases lacks
    · cases lacks.symm.trans lacks'
      rw [apply, resolved]
      rfl
  | name unresolved =>
    rw [apply, unresolved]
    rfl
  | change => rfl

/-- A call fails exactly if it is rejected. -/
theorem apply_eq_error_iff {s : ChangeSet} {call : ChangeCall} {e : Error} :
    (call.apply s).1 = .error e ↔ call.Rejected e := by
  constructor
  · intro failed
    rcases apply_cases s call with ⟨e', rejected, eq⟩ | ⟨s', eq, -⟩
    · rw [eq] at failed
      cases failed
      exact rejected
    · rw [eq] at failed
      cases failed
  · intro rejected
    rw [apply_of_rejected rejected]

end ChangeCall

/-! ## A whole history -/

namespace History

/-- A history as a script that goes on whatever fails. -/
def tolerated (calls : List ChangeCall) : List ScriptedCall := calls.map fun call => ⟨call, true⟩

/-- The columns that are left at the end of a history: those that no later call removes. -/
def remaining : List ChangeCall → List DeclaredColumn
  | [] => []
  | call :: later =>
    (call.declares.filter fun c => !later.any (·.removes c.name)) ++ remaining later

/-- The names that a history drops, in order. -/
def drops (calls : List ChangeCall) : List String := calls.flatMap ChangeCall.drops

/-- The statement that adds a column. -/
def addStatement (table : String) (c : DeclaredColumn) : String :=
  "ALTER TABLE " ++ table ++ " ADD COLUMN " ++ c.name ++ " " ++ c.kind.wire.keyword

/-- The statement that drops a column. -/
def dropStatement (table column : String) : String :=
  "ALTER TABLE " ++ table ++ " DROP COLUMN " ++ column

/-- A tolerated call has its effect, and the script goes on. -/
theorem runScript_tolerated_cons (s : ChangeSet) (call : ChangeCall) (calls : List ChangeCall) :
    ∃ s', call.Effect s s' ∧
      (s.runScript (tolerated (call :: calls))).outcome =
        (s'.runScript (tolerated calls)).outcome ∧
      (s.runScript (tolerated (call :: calls))).changes =
        (s'.runScript (tolerated calls)).changes := by
  rcases ChangeCall.apply_cases s call with ⟨e, rejected, failed⟩ | ⟨s', done, effect⟩
  · refine ⟨s, rejected.effect_self s, ?_⟩
    rw [tolerated, List.map_cons, ChangeSet.runScript, failed]
    exact ⟨rfl, rfl⟩
  · refine ⟨s', effect, ?_⟩
    rw [tolerated, List.map_cons, ChangeSet.runScript, done]
    exact ⟨rfl, rfl⟩

/-- What a history makes of a change set. -/
theorem runScript_tolerated (calls : List ChangeCall) :
    ∀ s : ChangeSet, (s.runScript (tolerated calls)).outcome = .ok () ∧
      (s.runScript (tolerated calls)).changes.table = s.table ∧
      (s.runScript (tolerated calls)).changes.declared =
        (s.declared.filter fun c => !calls.any (·.removes c.name)) ++ remaining calls ∧
      (s.runScript (tolerated calls)).changes.commands =
        s.commands ++ calls.flatMap ChangeCall.commands := by
  induction calls with
  | nil =>
    intro s
    refine ⟨rfl, rfl, ?_, (List.append_nil _).symm⟩
    rw [remaining, List.append_nil]
    exact (List.filter_eq_self.mpr fun _ _ => rfl).symm
  | cons call calls ih =>
    intro s
    obtain ⟨s', effect, same_outcome, same_changes⟩ := runScript_tolerated_cons s call calls
    obtain ⟨done, table, declared, commands⟩ := ih s'
    rw [same_outcome, same_changes]
    refine ⟨done, table.trans effect.table, ?_, ?_⟩
    · rw [declared, effect.declared, List.filter_append, List.filter_filter, remaining,
        List.append_assoc]
      simp only [List.any_cons, Bool.not_or, Bool.and_comm]
    · rw [commands, effect.commands, List.flatMap_cons, List.append_assoc]

/-! ## Compiling -/

/-- The keywords of the nine types that the daemon stores. -/
def keywords : List String :=
  ["STRING", "INTEGER", "BIGINT", "FLOAT", "BOOL", "MULTI", "MULTI64", "JSON", "TIMESTAMP"]

theorem keyword_mem_keywords (kind : ColumnKind) : kind.wire.keyword ∈ keywords := by
  cases kind <;> decide

/-- Of the commands of a call only a named one can ask for a missing feature. -/
theorem findSome?_commands (call : ChangeCall) :
    call.commands.findSome? ChangeSet.refusedCommand? = call.asksFor? := by
  have dropped : (call.drops.map Command.drop).findSome? ChangeSet.refusedCommand? = none := by
    rw [List.findSome?_map, List.findSome?_eq_none_iff]
    intro column _
    rfl
  rw [ChangeCall.commands, List.findSome?_append, dropped, Option.none_or]
  cases call with
  | addCommand name columns =>
    rw [ChangeCall.named, List.findSome?_singleton, ChangeSet.refusedCommand?, Command.name]
    split
    · rfl
    · rfl
    · rename_i not_foreign not_rename
      exact (ChangeCall.asksFor?.eq_3 _ (fun _ eq => by cases eq; exact not_foreign rfl)
        (fun _ eq => by cases eq; exact not_rename rfl)).symm
  | _ => rfl

theorem findSome?_flatMap_commands (calls : List ChangeCall) :
    (calls.flatMap ChangeCall.commands).findSome? ChangeSet.refusedCommand? =
      calls.findSome? ChangeCall.asksFor? := by
  induction calls with
  | nil => rfl
  | cons call calls ih =>
    rw [List.flatMap_cons, List.findSome?_append, findSome?_commands, ih, List.findSome?_cons]
    cases call.asksFor? <;> rfl

/-- A missing feature that a command asks for by name is never the change of a column. -/
theorem ne_columnModification_of_asksFor? {call : ChangeCall} {feature : Feature}
    (h : call.asksFor? = some feature) : feature ≠ .columnModification := by
  unfold ChangeCall.asksFor? at h
  split at h <;> cases h <;> decide

/-- Of the commands of a call only the drops have statements. -/
theorem filterMap_commands (tablePrefix : String) (s : ChangeSet) (call : ChangeCall) :
    call.commands.filterMap (s.commandSql? tablePrefix) =
      call.drops.map (dropStatement (tablePrefix ++ s.table)) := by
  have unnamed : call.named.filterMap (s.commandSql? tablePrefix) = [] := by
    cases call <;> rfl
  have dropped : s.commandSql? tablePrefix ∘ Command.drop =
      some ∘ dropStatement (tablePrefix ++ s.table) := by
    funext column
    exact congrArg (fun head => some (head ++ " DROP COLUMN " ++ column)) String.append_assoc
  rw [ChangeCall.commands, List.filterMap_append, unnamed, List.append_nil, List.filterMap_map,
    dropped, List.filterMap_eq_map]

theorem filterMap_flatMap_commands (tablePrefix : String) (s : ChangeSet)
    (calls : List ChangeCall) :
    (calls.flatMap ChangeCall.commands).filterMap (s.commandSql? tablePrefix) =
      (drops calls).map (dropStatement (tablePrefix ++ s.table)) := by
  simp only [List.filterMap_flatMap, filterMap_commands, drops, List.map_flatMap]

/-- A change set with a marked column compiles to nothing. -/
theorem statements_of_marked {s : ChangeSet} (tablePrefix : String)
    (h : ∃ c ∈ s.declared, c.marked = true) :
    s.statements tablePrefix = .error (.unsupported .columnModification) := by
  obtain ⟨c, mem, marked⟩ := h
  obtain ⟨column, hc, rfl⟩ := List.mem_map.mp mem
  have changed : s.changed ≠ [] := List.ne_nil_of_mem (List.mem_filter.mpr ⟨hc, marked⟩)
  rw [ChangeSet.statements, if_pos (by simpa using changed)]
  rfl

/-- A change set without a marked column adds all its columns, unless a command is refused. -/
theorem statements_of_unmarked {s : ChangeSet} (tablePrefix : String)
    (h : ∀ c ∈ s.declared, c.marked = false) :
    s.statements tablePrefix =
      match s.commands.findSome? ChangeSet.refusedCommand? with
      | some feature => .error (.unsupported feature)
      | none => .ok (s.declared.map (addStatement (tablePrefix ++ s.table)) ++
          s.commands.filterMap (s.commandSql? tablePrefix)) := by
  have unmarked : ∀ column ∈ s.columns, column.change = false := fun column mem =>
    h _ (List.mem_map_of_mem mem)
  have changed : s.changed = [] :=
    List.filter_eq_nil_iff.mpr fun column mem => by
      rw [unmarked column mem]
      exact Bool.false_ne_true
  have added : s.added = s.columns :=
    List.filter_eq_self.mpr fun column mem => by rw [unmarked column mem, Bool.not_false]
  have adds : s.commandSql? tablePrefix ∘ Command.add =
      some ∘ addStatement (tablePrefix ++ s.table) ∘ ColumnDefinition.declared := by
    funext column
    exact congrArg (fun head => some (head ++ " ADD COLUMN " ++ column.name ++ " " ++
      column.kind.wire.keyword)) String.append_assoc
  have statements : (s.added.map Command.add ++ s.commands).filterMap (s.commandSql? tablePrefix) =
      s.declared.map (addStatement (tablePrefix ++ s.table)) ++
        s.commands.filterMap (s.commandSql? tablePrefix) := by
    rw [List.filterMap_append, List.filterMap_map, adds, List.filterMap_eq_map, added,
      ChangeSet.declared, List.map_map]
  rw [ChangeSet.statements, ChangeSet.checkCommands, changed, statements]
  cases s.commands.findSome? ChangeSet.refusedCommand? <;> rfl

/-- A history compiles to what its calls declare. A rejected call leaves the change set as it was,
and no other call fails; what the remaining calls add up to is one of three things: the refusal of a
marked column, the refusal of the first command that asks for a missing feature, or one statement
for each remaining column and then one for each dropped name. -/
theorem statements_of_history (tablePrefix table : String) (calls : List ChangeCall) :
    (∀ (s : ChangeSet) (call : ChangeCall) (e : Error),
      ((call.apply s).1 = .error e ↔ call.Rejected e) ∧
      (call.Rejected e → (call.apply s).2 = s ∧
        (s.runScript (tolerated [call])).outcome = .ok () ∧
        (s.runScript (tolerated [call])).changes = s)) ∧
    let ran := ({ table } : ChangeSet).runScript (tolerated calls)
    ∃ s, ran.outcome = .ok () ∧ ran.changes = s ∧
      s.declared = remaining calls ∧ s.commands = calls.flatMap ChangeCall.commands ∧
      (s.statements tablePrefix = .error (.unsupported .columnModification) ↔
        ∃ c ∈ remaining calls, c.marked = true) ∧
      ((∀ c ∈ remaining calls, c.marked = false) →
        s.statements tablePrefix =
          match calls.findSome? ChangeCall.asksFor? with
          | some feature => .error (.unsupported feature)
          | none => .ok ((remaining calls).map (addStatement (tablePrefix ++ table)) ++
              (drops calls).map (dropStatement (tablePrefix ++ table)))) ∧
      ∀ c ∈ remaining calls, c.kind.wire.keyword ∈ keywords := by
  refine ⟨fun s call e => ⟨ChangeCall.apply_eq_error_iff, fun rejected => ?_⟩, ?_⟩
  · have failed := ChangeCall.apply_of_rejected rejected s
    rw [tolerated, List.map_singleton, ChangeSet.runScript, failed]
    exact ⟨rfl, rfl, rfl⟩
  intro ran
  obtain ⟨done, table, declared, commands⟩ := runScript_tolerated calls { table }
  generalize changes : ran.changes = s
  rw [changes] at table declared commands
  have declared : s.declared = remaining calls := declared
  have commands : s.commands = calls.flatMap ChangeCall.commands := commands
  have unmarked (h : ∀ c ∈ remaining calls, c.marked = false) :=
    statements_of_unmarked (s := s) tablePrefix (declared ▸ h)
  rw [commands, findSome?_flatMap_commands, filterMap_flatMap_commands, declared, table] at unmarked
  refine ⟨s, done, rfl, declared, commands, ⟨fun refused => ?_, fun marked => ?_⟩, unmarked,
    fun c _ => keyword_mem_keywords c.kind⟩
  · cases some_marked : (remaining calls).any (·.marked) with
    | true => exact List.any_eq_true.mp some_marked
    | false =>
      have none_marked : ∀ c ∈ remaining calls, c.marked = false := fun c mem =>
        Bool.eq_false_iff.mpr (List.any_eq_false.mp some_marked c mem)
      rw [unmarked none_marked] at refused
      cases asked : calls.findSome? ChangeCall.asksFor? with
      | none =>
        rw [asked] at refused
        cases refused
      | some feature =>
        obtain ⟨call, -, asks⟩ := List.exists_of_findSome?_eq_some asked
        rw [asked] at refused
        cases refused
        exact absurd rfl (ne_columnModification_of_asksFor? asks)
  · exact statements_of_marked tablePrefix (declared ▸ marked)

/-- A history in which a name is declared again after its removal, a drop precedes its declaration,
and rejected calls and a command without a statement stand in between. -/
theorem statements_of_history_interleaved :
    let ran := ({ table := "items" } : ChangeSet).runScript (tolerated
      [.declare (.supported .string) "a" [.nullable, .change], .declareNamed "uuid" "b" [],
        .dropSoftDeletes none, .declareNamed "longText" "c" [], .removeColumn "a",
        .refused .unique, .addCommand "optimize" ["a"], .declare (.set false) "a" [.first],
        .dropColumns ["a", "b"]])
    ran.outcome = .ok () ∧
      ran.changes.statements "rt_" =
        .ok ["ALTER TABLE rt_items ADD COLUMN c STRING",
          "ALTER TABLE rt_items ADD COLUMN a MULTI64",
          "ALTER TABLE rt_items DROP COLUMN __soft_deleted", "ALTER TABLE rt_items DROP COLUMN a",
          "ALTER TABLE rt_items DROP COLUMN b"] := by
  intro ran
  obtain ⟨-, s, done, rfl, -, -, -, compiled, -⟩ := statements_of_history "rt_" "items"
    [.declare (.supported .string) "a" [.nullable, .change], .declareNamed "uuid" "b" [],
      .dropSoftDeletes none, .declareNamed "longText" "c" [], .removeColumn "a",
      .refused .unique, .addCommand "optimize" ["a"], .declare (.set false) "a" [.first],
      .dropColumns ["a", "b"]]
  exact ⟨done, (compiled (by decide)).trans (by rfl)⟩

end History

end SearchQL
