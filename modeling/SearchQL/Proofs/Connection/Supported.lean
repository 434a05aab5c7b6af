import SearchQL.Connection.Operation
import SearchQL.Proofs.Query.Conversion
import SearchQL.Proofs.Query.Shape

/-!
# Supported — where refusals cannot come from

A refusal says that the daemon lacks a feature. Only schema operations can ask
for one: the calls of a change script and the operations that belong to
relational databases. Everything else fails for other reasons, for a value that
cannot be decoded or a request that is incomplete, and a link fails for reasons
of its own.

`Supported` says that an outcome is no refusal. It is kept by everything that
passes errors on, so each function needs to be looked at once, and a plan without
statements of a schema change is `Unrefused` if nothing it reads or answers is
refused. `Operation.unrefused_plan` puts this together.
-/

namespace SearchQL

/-- Whether an outcome is no refusal. -/
def Supported {α : Type} (x : Except Error α) : Prop :=
  ∀ feature, x ≠ .error (.unsupported feature)

namespace Supported

variable {α β : Type}

theorem ok (v : α) : Supported (.ok v) := nofun

theorem decode (text : String) (fault : DecodeFault) :
    Supported (.error (.decode text fault) : Except Error α) := nofun

theorem request (fault : RequestFault) :
    Supported (.error (.request fault) : Except Error α) := nofun

theorem bind {x : Except Error α} {f : α → Except Error β} (h : Supported x)
    (next : ∀ v, x = .ok v → Supported (f v)) : Supported (x.bind f) := by
  cases x with
  | ok v => exact next v rfl
  | error e =>
    rintro feature ⟨rfl⟩
    exact h feature rfl

theorem map {x : Except Error α} (h : Supported x) (f : α → β) : Supported (x.map f) := by
  cases x with
  | ok v => exact ok (f v)
  | error e =>
    rintro feature ⟨rfl⟩
    exact h feature rfl

theorem mapM {f : α → Except Error β} {xs : List α} (each : ∀ x ∈ xs, Supported (f x)) :
    Supported (xs.mapM f) := by
  induction xs with
  | nil => exact ok []
  | cons x rest ih =>
    obtain ⟨first, others⟩ := List.forall_mem_cons.mp each
    rw [List.mapM_cons]
    exact first.bind fun v _ => (ih others).bind fun vs _ => ok (v :: vs)

theorem foldlM {f : β → α → Except Error β} (each : ∀ s x, Supported (f s x)) (xs : List α) :
    ∀ s, Supported (xs.foldlM f s) := by
  induction xs with
  | nil => exact fun s => ok s
  | cons x rest ih =>
    intro s
    rw [List.foldlM_cons]
    exact (each s x).bind fun next _ => ih next

end Supported

/-! ## Values -/

namespace MultiValue

theorem supported_integer (v : Value) : Supported (integer v) := by
  intro feature failed
  obtain ⟨text, fault, wrong⟩ := exists_of_integer_eq_error failed
  cases wrong

theorem supported_ofText (raw : String) : Supported (ofText raw) := by
  rw [ofText]
  split
  · exact .ok []
  · refine .mapM fun cs _ => ?_
    rw [token]
    split
    · exact .ok _
    · exact .decode _ _

theorem supported_ofValue (v : Value) : Supported (ofValue v) := by
  cases v with
  | null => exact .ok []
  | bool b => exact .decode _ _
  | number n => exact (supported_integer _).map _
  | text s => exact supported_ofText s
  | array items => exact .mapM fun item _ => supported_integer item
  | object fields => exact .decode _ _

mutual

theorem supported_addArgument (found : List Int64) (v : Value) :
    Supported (addArgument found v) := by
  cases v with
  | null =>
    rw [addArgument]
    exact .ok found
  | array items =>
    rw [addArgument]
    exact supported_addArguments found items
  | text s =>
    rw [addArgument]
    split
    · exact .ok found
    · exact (supported_integer _).map _
  | bool b =>
    rw [addArgument]
    · exact (supported_integer _).map _
    all_goals exact nofun
  | number n =>
    rw [addArgument]
    · exact (supported_integer _).map _
    all_goals exact nofun
  | object fields =>
    rw [addArgument]
    · exact (supported_integer _).map _
    all_goals exact nofun

theorem supported_addArguments (found : List Int64) (values : List Value) :
    Supported (addArguments found values) := by
  cases values with
  | nil =>
    rw [addArguments]
    exact .ok found
  | cons v rest =>
    rw [addArguments]
    exact (supported_addArgument found v).bind fun found _ => supported_addArguments found rest

end

end MultiValue

namespace Param

theorem supported_ofValue (v : Value) : Supported (ofValue v) := by
  by_cases bindable : v.Bindable
  · rw [ofValue_of_bindable bindable]
    exact .ok _
  · obtain ⟨text, fault, failed⟩ := ofValue_of_not_bindable bindable
    rw [failed]
    exact .decode text fault

theorem supported_ofRow (row : Row) : Supported (ofRow row) :=
  .mapM fun cell _ => (supported_ofValue cell.2).map _

end Param

namespace Cast

theorem supported_toInteger (v : Value) : Supported (toInteger v) := by
  cases v with
  | number n =>
    rw [toInteger]
    split <;> exact .ok _
  | bool b => exact .ok _
  | text s =>
    rw [toInteger]
    split
    · exact .ok _
    · split
      · exact .ok _
      · exact .decode _ _
  | _ => exact .decode _ _

theorem supported_toFloat (v : Value) : Supported (toFloat v) := by
  cases v with
  | number n => exact .ok _
  | bool b => exact .ok _
  | text s =>
    rw [toFloat]
    split
    · exact .ok _
    · exact .decode _ _
  | _ => exact .decode _ _

theorem supported_toDocument (v : Value) : Supported (toDocument v) := by
  cases v with
  | text s =>
    rw [toDocument]
    split
    · exact .ok _
    · exact .decode _ _
  | _ => exact .ok _

theorem supported_decode (cast : Cast) (v : Value) : Supported (cast.decode v) := by
  rw [decode.eq_def]
  split
  · exact .ok Value.null
  · split
    · exact (MultiValue.supported_ofValue v).map _
    · exact supported_toDocument v
    · exact (supported_toInteger v).map _
    · exact (supported_toFloat v).map _
    · exact .ok _
    · exact .ok _

end Cast

theorem Entity.supported_decodeRow (e : Entity) (row : Row) : Supported (e.decodeRow row) := by
  refine .mapM fun field _ => ?_
  rw [decodeField]
  split
  · exact (Cast.supported_decode _ _).map _
  · exact .ok field

/-! ## Queries -/

theorem QueryCall.supported_apply (q : Query) (call : QueryCall) : Supported (call.apply q) := by
  cases call with
  | whereMulti column operator values => exact (MultiValue.supported_addArguments [] values).map _
  | _ => exact .ok _

namespace Query

variable (tablePrefix : String) (q : Query)

theorem supported_applyCalls (calls : List QueryCall) : Supported (q.applyCalls calls) :=
  .foldlM QueryCall.supported_apply calls q

theorem supported_target : Supported (q.target tablePrefix) := by
  rw [target]
  split
  · exact .ok _
  · exact .request _

theorem supported_select : Supported (q.select tablePrefix) := by
  rw [select_eq_map]
  exact (q.supported_target tablePrefix).map _

theorem supported_count : Supported (q.count tablePrefix) := q.counting.supported_select tablePrefix

theorem supported_alignFrom (verb : WriteVerb) (columns : List String)
    (rows : List (List (String × Param))) :
    ∀ number, Supported (alignFrom verb columns number rows) := by
  induction rows with
  | nil => exact fun _ => .ok []
  | cons row rest ih =>
    intro number
    rw [alignFrom]
    split
    · exact .request _
    · exact (ih _).map _

theorem supported_write (verb : WriteVerb) (rows : List (List (String × Param))) :
    Supported (q.write tablePrefix verb rows) := by
  refine (q.supported_target tablePrefix).bind fun table _ => ?_
  cases rows with
  | nil => exact .request _
  | cons first rest => exact (supported_alignFrom verb _ _ 0).bind fun _ _ => .ok _

theorem supported_update (assignments : List (String × Param)) :
    Supported (q.update tablePrefix assignments) := by
  rw [update_eq_map]
  split
  · exact .request _
  · exact (q.supported_target tablePrefix).map _

theorem supported_delete : Supported (q.delete tablePrefix) := by
  rw [delete_eq_map]
  exact (q.supported_target tablePrefix).map _

theorem supported_truncate : Supported (q.truncate tablePrefix) := by
  rw [truncate_eq_map]
  exact (q.supported_target tablePrefix).map _

theorem supported_readCount (rows : List Row) : Supported (readCount rows) := by
  rw [readCount]
  split
  · exact .ok _
  · split
    · exact .ok _
    · exact .decode _ _
  · exact .ok _

end Query

/-! ## Plans -/

theorem Link.supported_send {α : Type} (link : Link) (channel : Channel) (request : Request)
    (prepared : Recorder → α) : Supported (link.send channel request prepared).answer := by
  cases link with
  | unreachable cause => exact nofun
  | recording r =>
    rw [send]
    cases r.failure? request.sql with
    | none => exact .ok _
    | some message => exact nofun

namespace Plan

/-- Whether the answer of a plan that sends at most one statement can be no refusal. -/
def Unrefused : Plan → Prop
  | settled _ answer => Supported answer
  | fetch _ read => ∀ rows, Supported (read rows)
  | execute _ _ => True
  | sequence _ _ => False

theorem Unrefused.supported {plan : Plan} (h : plan.Unrefused) (link : Link) :
    Supported (plan.run link).answer := by
  cases plan with
  | settled notes answer => exact h
  | fetch request read => exact (link.supported_send _ _ _).bind fun rows _ => h rows
  | execute request read => exact (link.supported_send _ _ _).map read
  | sequence notes requests => exact h.elim

theorem unrefused_after {α : Type} {converted : Except Error α} {next : α → Plan}
    (supported : Supported converted) (unrefused : ∀ v, (next v).Unrefused) :
    (after converted next).Unrefused := by
  cases converted with
  | ok v => exact unrefused v
  | error e =>
    rintro feature ⟨rfl⟩
    exact supported feature rfl

end Plan

namespace Query

theorem unrefused_fetchPlan {kind : StatementKind} {read : List Row → Except Error Answer}
    (reads : ∀ rows, Supported (read rows)) {compiled : Except Error Statement}
    (supported : Supported compiled) : (fetchPlan kind read compiled).Unrefused := by
  refine Plan.unrefused_after supported fun s => ?_
  split
  · exact reads []
  · exact reads

theorem unrefused_filteredPlan {kind : StatementKind} {compiled : Except Error Statement}
    (supported : Supported compiled) : (filteredPlan kind compiled).Unrefused := by
  refine Plan.unrefused_after supported fun s => ?_
  split
  · exact .ok _
  · trivial

theorem unrefused_terminalPlan (tablePrefix : String) (q : Query) (t : Terminal) :
    (q.terminalPlan tablePrefix t).Unrefused := by
  cases t with
  | get => exact unrefused_fetchPlan (fun _ => .ok _) (q.supported_select tablePrefix)
  | first => exact unrefused_fetchPlan (fun _ => .ok _) (supported_select tablePrefix _)
  | find id => exact unrefused_fetchPlan (fun _ => .ok _) (supported_select tablePrefix _)
  | count => exact unrefused_fetchPlan supported_readCount (q.supported_count tablePrefix)
  | write verb rows =>
    refine Plan.unrefused_after (.mapM fun row _ => Param.supported_ofRow row) fun rows => ?_
    exact Plan.unrefused_after (q.supported_write tablePrefix verb rows) fun s => trivial
  | update values =>
    refine Plan.unrefused_after (Param.supported_ofRow values) fun assignments => ?_
    exact unrefused_filteredPlan (q.supported_update tablePrefix assignments)
  | delete => exact unrefused_filteredPlan (q.supported_delete tablePrefix)
  | truncate => exact Plan.unrefused_after (q.supported_truncate tablePrefix) fun s => trivial

end Query

namespace Operation

/-- Whether an operation is one of a schema. -/
def OnSchema : Operation → Prop
  | relational _ | alter _ _ => True
  | _ => False

/-- Only operations on a schema are refused. -/
theorem unrefused_plan (tablePrefix : String) {operation : Operation}
    (other : ¬ operation.OnSchema) : (operation.plan tablePrefix).Unrefused := by
  cases operation with
  | query table calls terminal =>
    exact Plan.unrefused_after (Query.supported_applyCalls _ calls) fun q =>
      q.unrefused_terminalPlan tablePrefix terminal
  | select sql params => exact fun rows => .ok _
  | statement sql params => trivial
  | affecting sql params => trivial
  | relational operation => exact absurd trivial other
  | alter table script => exact absurd trivial other
  | inspect inspection => cases inspection <;> exact fun rows => .ok _
  | find entity id =>
    rw [plan, Entity.findPlan]
    refine Query.unrefused_fetchPlan (fun rows => ?_) (Query.supported_select tablePrefix _)
    split
    · exact (entity.supported_decodeRow _).map _
    · exact .ok _
  | page entity number =>
    rw [plan, Entity.pagePlan]
    refine Query.unrefused_fetchPlan (fun rows => ?_) (Query.supported_select tablePrefix _)
    exact (Supported.mapM fun row _ => entity.supported_decodeRow row).map _

end Operation

end SearchQL
