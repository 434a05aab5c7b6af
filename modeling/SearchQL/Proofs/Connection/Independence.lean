import Mathlib.Data.List.Forall2
import SearchQL.Proofs.Connection.Dispatch

/-!
# Independence — what is sent does not depend on the daemon

An operation is carried out on one connection, but most of what is worth saying
about it compares two. This module runs the same operations on any two links,
whatever is prepared on them and whether they can be reached, and says what the
two runs have in common.

The comparison goes through a third thing, which neither link has a part in: the
**demand** of an operation. It is read off the operation alone. A refusal, a value
that does not convert, a query that does not compile and one that matches nothing
and whose terminal has an answer for that demand nothing. A schema change demands
its statements, and every other operation demands one.

A plan is not a demand, since it holds the reading of an answer as well.
`demand_plan` says that the plan of an operation demands what the operation does.
The rest follows from the plan: the step lemma is `outcome_meets`, for one
operation on one link, and `session_agrees` puts two runs of a list of operations
side by side. Its induction carries that a link stays what it is while its log
grows.
-/

namespace SearchQL

/-! ## Demands -/

/-- What an operation asks of the daemon. -/
inductive Demand where
  /-- Nothing, since the answer is known. -/
  | nothing (answer : Except Error Answer) (counted : List Measurement)
  | statement (record : Record)
  /-- The statements of a schema change, of which there is at least one. -/
  | change (counted : List Measurement) (first : Record) (rest : List Record)

namespace Demand

/-- The statements that are asked for. -/
def records : Demand → List Record
  | nothing _ _ => []
  | statement record => [record]
  | change _ first rest => first :: rest

/-- What is counted whatever comes of the statements. -/
def counted : Demand → List Measurement
  | nothing _ counted | change counted _ _ => counted
  | statement _ => []

/-- The demand of what was compiled. A statement that matches nothing is not asked for when there
is an answer for that. -/
def ofCompiled (channel : Channel) (unmatched? : Option Answer) : Except Error Statement → Demand
  | .error e => nothing (.error e) []
  | .ok s =>
    match unmatched?, s.matchesNothing with
    | some answer, true => nothing (.ok answer) [.shortCircuit]
    | _, _ => statement ⟨channel, s.sql, s.params⟩

/-- The demand of the statements of a schema change. -/
def ofChange (counted : List Measurement) : List Record → Demand
  | [] => nothing (.ok .done) counted
  | first :: rest => change counted first rest

theorem records_ofChange (counted : List Measurement) (statements : List Record) :
    (ofChange counted statements).records = statements := by
  cases statements <;> rfl

end Demand

namespace Terminal

/-- The statement of a query that ends in a terminal. -/
def compile (tablePrefix : String) (q : Query) : Terminal → Except Error Statement
  | get => q.select tablePrefix
  | first => q.limitedToFirst.select tablePrefix
  | find id => (q.withId "id" id).limitedToFirst.select tablePrefix
  | count => q.count tablePrefix
  | write verb rows => do q.write tablePrefix verb (← rows.mapM Param.ofRow)
  | update values => do q.update tablePrefix (← Param.ofRow values)
  | delete => q.delete tablePrefix
  | truncate => q.truncate tablePrefix

/-- What is wanted back from the statement. -/
def channel : Terminal → Channel
  | get | first | find _ | count => .rows
  | write _ _ | update _ | delete | truncate => .affected

/-- The answer of a query that matches nothing. A write of rows and a truncation have none: the
filter of a query does not matter to them. -/
def unmatched? : Terminal → Option Answer
  | get => some (.rows [])
  | first | find _ => some (.row none)
  | count | update _ | delete => some (.number 0)
  | write _ _ | truncate => none

/-- What a query that ends in a terminal asks for. -/
def demand (tablePrefix : String) (q : Query) (t : Terminal) : Demand :=
  .ofCompiled t.channel t.unmatched? (t.compile tablePrefix q)

end Terminal

/-- The statement of an inspection. -/
def Inspection.record (tablePrefix : String) : Inspection → Record
  | hasTable table => ⟨.rows, "SHOW TABLES LIKE ?", [.text (tablePrefix ++ table)]⟩
  | hasColumn table _ | hasColumns table _ | columnListing table | columnType table _ =>
    ⟨.rows, "DESC " ++ (tablePrefix ++ table), []⟩
  | allTables => ⟨.rows, "SHOW TABLES", []⟩

/-- What a schema change asks for. -/
def ChangeScript.demand (tablePrefix table : String) (script : ChangeScript) : Demand :=
  match ({ table } : ChangeSet).follow script with
  | (notes, .error e) => .nothing (.error e) notes
  | (notes, .ok s) =>
    match s.statements tablePrefix with
    | .error e => .nothing (.error e) (notes ++ e.refusals)
    | .ok statements => .ofChange notes (statements.map fun sql => ⟨.affected, sql, []⟩)

/-- What an operation asks for on a connection with a table prefix. -/
def Operation.demand (tablePrefix : String) : Operation → Demand
  | query table calls terminal =>
    match ({ index := table } : Query).applyCalls calls with
    | .error e => .nothing (.error e) []
    | .ok q => terminal.demand tablePrefix q
  | select sql params => .statement ⟨.rows, sql, params⟩
  | statement sql params | affecting sql params => .statement ⟨.affected, sql, params⟩
  | relational operation =>
    .nothing (.error (.unsupported operation.feature)) [.refusal operation.feature]
  | alter table script => script.demand tablePrefix table
  | inspect inspection => .statement (inspection.record tablePrefix)
  | find entity id => Terminal.first.demand tablePrefix (entity.query.withId entity.key id)
  | page entity number => Terminal.get.demand tablePrefix (entity.pageQuery number)

/-! ## The demand of a plan -/

namespace Plan

/-- What a plan asks for. -/
def demand : Plan → Demand
  | settled notes answer => .nothing answer notes
  | fetch request _ => .statement (request.entry .rows)
  | execute request _ => .statement (request.entry .affected)
  | sequence notes requests => .ofChange notes (requests.map (Request.entry .affected))

end Plan

namespace Query

theorem demand_fetchPlan {read : List Row → Except Error Answer} {answer : Answer}
    (unmatched : read [] = .ok answer) (kind : StatementKind)
    (compiled : Except Error Statement) :
    (fetchPlan kind read compiled).demand = .ofCompiled .rows (some answer) compiled := by
  cases compiled with
  | error e => rfl
  | ok s =>
    obtain ⟨fragment, matchesNothing⟩ := s
    cases matchesNothing with
    | true => exact congrArg (Demand.nothing · [.shortCircuit]) unmatched
    | false => rfl

theorem demand_filteredPlan (kind : StatementKind) (compiled : Except Error Statement) :
    (filteredPlan kind compiled).demand =
      .ofCompiled .affected (some (.number 0)) compiled := by
  cases compiled with
  | error e => rfl
  | ok s =>
    obtain ⟨fragment, matchesNothing⟩ := s
    cases matchesNothing <;> rfl

theorem demand_executed (kind : StatementKind) (read : UInt64 → Answer)
    (compiled : Except Error Statement) :
    (Plan.after compiled fun s => .execute (request kind s) read).demand =
      .ofCompiled .affected none compiled := by
  cases compiled with
  | error e => rfl
  | ok s => rfl

theorem demand_terminalPlan (tablePrefix : String) (q : Query) (t : Terminal) :
    (q.terminalPlan tablePrefix t).demand = t.demand tablePrefix q := by
  cases t with
  | get => exact demand_fetchPlan rfl _ _
  | first => exact demand_fetchPlan rfl _ _
  | find id => exact demand_fetchPlan rfl _ _
  | count => exact demand_fetchPlan rfl _ _
  | write verb rows =>
    rw [terminalPlan, Terminal.demand, Terminal.compile]
    cases rows.mapM Param.ofRow with
    | error e => rfl
    | ok rows => exact demand_executed _ _ _
  | update values =>
    rw [terminalPlan, Terminal.demand, Terminal.compile]
    cases Param.ofRow values with
    | error e => rfl
    | ok assignments => exact demand_filteredPlan _ _
  | delete => exact demand_filteredPlan _ _
  | truncate => exact demand_executed _ _ _

end Query

namespace Operation

theorem demand_scriptPlan (tablePrefix table : String) (script : ChangeScript) :
    (ChangeSet.scriptPlan tablePrefix table script).demand = script.demand tablePrefix table := by
  rw [ChangeSet.scriptPlan, ChangeScript.demand]
  rcases ({ table } : ChangeSet).follow script with ⟨notes, e | s⟩
  · rfl
  · cases compiled : s.statements tablePrefix with
    | error e =>
      simp only [ChangeSet.plan_eq_settled compiled, compiled, Plan.demand]
    | ok statements =>
      simp only [ChangeSet.plan_eq_sequence compiled, compiled, Plan.demand, List.map_map]
      rfl

/-- The plan of an operation asks for what the operation does. -/
theorem demand_plan (tablePrefix : String) (operation : Operation) :
    (operation.plan tablePrefix).demand = operation.demand tablePrefix := by
  cases operation with
  | query table calls terminal =>
    rw [plan, demand]
    cases ({ index := table } : Query).applyCalls calls with
    | error e => rfl
    | ok q => exact q.demand_terminalPlan tablePrefix terminal
  | select sql params => rfl
  | statement sql params => rfl
  | affecting sql params => rfl
  | relational operation => rfl
  | alter table script => exact demand_scriptPlan tablePrefix table script
  | inspect inspection => cases inspection <;> rfl
  | find entity id =>
    rw [plan, demand, Entity.findPlan]
    exact Query.demand_fetchPlan rfl _ _
  | page entity number =>
    rw [plan, demand, Entity.pagePlan]
    exact Query.demand_fetchPlan rfl _ _

end Operation

theorem Demand.ofCompiled_ne_change (channel : Channel) (unmatched? : Option Answer)
    (compiled : Except Error Statement) (counted : List Measurement) (first : Record)
    (rest : List Record) : ofCompiled channel unmatched? compiled ≠ change counted first rest := by
  cases compiled with
  | error e => exact nofun
  | ok s =>
    obtain ⟨fragment, matchesNothing⟩ := s
    cases unmatched? <;> cases matchesNothing <;> exact nofun

/-- Only a schema change asks for several statements. -/
theorem Operation.of_demand_eq_change {tablePrefix : String} {operation : Operation}
    {counted : List Measurement} {first : Record} {rest : List Record}
    (asks : operation.demand tablePrefix = .change counted first rest) :
    ∃ table script, operation = .alter table script := by
  cases operation with
  | alter table script => exact ⟨table, script, rfl⟩
  | query table calls terminal =>
    rw [demand] at asks
    split at asks
    · cases asks
    · exact absurd asks (Demand.ofCompiled_ne_change _ _ _ _ _ _)
  | find entity id =>
    rw [demand] at asks
    exact absurd asks (Demand.ofCompiled_ne_change _ _ _ _ _ _)
  | page entity number =>
    rw [demand] at asks
    exact absurd asks (Demand.ofCompiled_ne_change _ _ _ _ _ _)
  | select sql params => cases asks
  | statement sql params => cases asks
  | affecting sql params => cases asks
  | relational operation => cases asks
  | inspect inspection => cases asks

/-! ## One operation on one link -/

/-- Why a link cannot be reached, if it cannot. -/
def Link.cause? : Link → Option String
  | recording _ => none
  | unreachable cause => some cause

/-- What came of an operation: what the log gained, the answer and what was counted. -/
structure Outcome where
  sent : List Record
  answer : Except Error Answer
  counted : List Measurement

/-- What came of an operation, given the link as it was before. -/
def Exchange.outcome (before : Link) (e : Exchange Answer) : Outcome :=
  ⟨e.link.log.drop before.log.length, e.answer, e.measurements⟩

/-- Whether an outcome is what a demand comes to on a link that is reached, or on one that is
not. -/
def Demand.Meets (cause? : Option String) (o : Outcome) : Demand → Prop
  | nothing answer counted => o = ⟨[], answer, counted⟩
  | statement record =>
    match cause? with
    | none => o.sent = [record]
    | some cause => o = ⟨[], .error (.connection cause), []⟩
  | change counted first rest =>
    match cause? with
    | none => o.sent <+: first :: rest
    | some cause => o = ⟨[], .error (.connection cause), counted⟩

namespace Plan

/-- The log of a link that is reached gains a beginning of what a plan asks for, and nothing else of
the link changes. -/
theorem exists_run_link (r : Recorder) (plan : Plan) :
    ∃ sent, sent <+: plan.demand.records ∧
      (plan.run (.recording r)).link = .recording { r with log := r.log ++ sent } := by
  cases plan with
  | settled notes answer => exact ⟨[], List.nil_prefix, by rw [List.append_nil]; rfl⟩
  | fetch request read => exact ⟨_, List.prefix_rfl, rfl⟩
  | execute request read => exact ⟨_, List.prefix_rfl, rfl⟩
  | sequence notes requests =>
    obtain ⟨sent, begins, link⟩ := exists_sendAll_link r requests
    refine ⟨sent.map (Request.entry .affected), ?_, link⟩
    rw [demand, Demand.records_ofChange]
    exact begins.map _

theorem run_unreachable_link (cause : String) (plan : Plan) :
    (plan.run (.unreachable cause)).link = .unreachable cause := by
  cases plan with
  | sequence notes requests => cases requests <;> rfl
  | _ => rfl

theorem outcome_sent {r : Recorder} {sent : List Record} {e : Exchange Answer}
    (link : e.link = .recording { r with log := r.log ++ sent }) :
    (e.outcome (.recording r)).sent = sent := by
  rw [Exchange.outcome, link]
  exact List.drop_left

/-- A link stays what it is, and what was in its log stays there. -/
theorem run_kept (link : Link) (plan : Plan) :
    (plan.run link).link.cause? = link.cause? ∧
      (plan.run link).link.log = link.log ++ ((plan.run link).outcome link).sent := by
  cases link with
  | recording r =>
    obtain ⟨sent, -, link⟩ := exists_run_link r plan
    rw [outcome_sent link, link]
    exact ⟨rfl, rfl⟩
  | unreachable cause =>
    rw [Exchange.outcome, run_unreachable_link]
    exact ⟨rfl, rfl⟩

/-- What leaves a link as it was has sent nothing. -/
theorem outcome_unsent (link : Link) (answer : Except Error Answer) (notes : List Measurement) :
    (Exchange.mk link answer notes).outcome link = ⟨[], answer, notes⟩ := by
  rw [Exchange.outcome, List.drop_length]

theorem run_sequence_nil (link : Link) (notes : List Measurement) :
    (sequence notes []).run link = ⟨link, .ok .done, notes⟩ := by
  rw [run, sendAll, List.append_nil]
  rfl

theorem run_sequence_unreachable (cause : String) (notes : List Measurement) (first : Request)
    (rest : List Request) :
    (sequence notes (first :: rest)).run (.unreachable cause) =
      ⟨.unreachable cause, .error (.connection cause), notes⟩ := by
  rw [run, sendAll]
  exact congrArg (Exchange.mk _ _) (List.append_nil notes)

/-- **The step lemma.** What a plan comes to on a link is what its demand comes to. -/
theorem outcome_meets (link : Link) (plan : Plan) :
    plan.demand.Meets link.cause? ((plan.run link).outcome link) := by
  cases plan with
  | settled notes answer => exact outcome_unsent link answer notes
  | fetch request read =>
    cases link with
    | recording r => exact outcome_sent rfl
    | unreachable cause => rfl
  | execute request read =>
    cases link with
    | recording r => exact outcome_sent rfl
    | unreachable cause => rfl
  | sequence notes requests =>
    cases requests with
    | nil =>
      rw [run_sequence_nil]
      exact outcome_unsent link (.ok .done) notes
    | cons first rest =>
      cases link with
      | recording r =>
        obtain ⟨sent, begins, link⟩ := exists_run_link r (.sequence notes (first :: rest))
        rw [← outcome_sent link] at begins
        exact begins
      | unreachable cause =>
        rw [run_sequence_unreachable]
        exact outcome_unsent (.unreachable cause) _ notes

end Plan

/-! ## One operation on two links -/

/-- What the outcomes of one operation on two links have in common. A link is given by the cause for
which it cannot be reached, if there is one. -/
structure Operation.Agrees (tablePrefix : String) (left right : Option String)
    (operation : Operation) (a b : Outcome) : Prop where
  /-- An operation that asks for nothing sends nothing, with the same answer and counts on both. -/
  settled : ∀ answer counted, operation.demand tablePrefix = .nothing answer counted →
    a = ⟨[], answer, counted⟩ ∧ b = ⟨[], answer, counted⟩
  /-- The one statement that is asked for is sent as it is, whatever it is answered. -/
  single : ∀ record, operation.demand tablePrefix = .statement record →
    (left = none → a.sent = [record]) ∧ (right = none → b.sent = [record])
  /-- Nothing is sent that is not asked for, and nothing before what is asked for earlier. -/
  demanded : a.sent <+: (operation.demand tablePrefix).records ∧
    b.sent <+: (operation.demand tablePrefix).records
  /-- One of the two has sent what the other has, and may have gone on. -/
  comparable : a.sent <+: b.sent ∨ b.sent <+: a.sent
  several : 1 < a.sent.length ∨ 1 < b.sent.length → ∃ table script, operation = .alter table script
  /-- A link that cannot be reached fails the operation that asks for something, and counts nothing
  for it but what the operation brings along. -/
  unreached : (∀ answer counted, operation.demand tablePrefix ≠ .nothing answer counted) →
    (∀ cause, left = some cause →
      a = ⟨[], .error (.connection cause), (operation.demand tablePrefix).counted⟩) ∧
    ∀ cause, right = some cause →
      b = ⟨[], .error (.connection cause), (operation.demand tablePrefix).counted⟩

namespace Demand.Meets

variable {cause? : Option String} {o : Outcome} {d : Demand}

theorem sent_prefix (meets : d.Meets cause? o) : o.sent <+: d.records := by
  cases d with
  | nothing answer counted => rw [show o = _ from meets]; exact List.prefix_rfl
  | statement record =>
    cases cause? with
    | none => rw [show o.sent = _ from meets]; exact List.prefix_rfl
    | some cause => rw [show o = _ from meets]; exact List.nil_prefix
  | change counted first rest =>
    cases cause? with
    | none => exact meets
    | some cause => rw [show o = _ from meets]; exact List.nil_prefix

theorem unreached {cause : String} (meets : d.Meets (some cause) o)
    (asks : ∀ answer counted, d ≠ .nothing answer counted) :
    o = ⟨[], .error (.connection cause), d.counted⟩ := by
  cases d with
  | nothing answer counted => exact absurd rfl (asks answer counted)
  | statement record => exact meets
  | change counted first rest => exact meets

end Demand.Meets

/-- Outcomes that meet the demand of one operation agree. -/
theorem Operation.Agrees.of_meets {tablePrefix : String} {left right : Option String}
    {operation : Operation} {a b : Outcome}
    (meets_left : (operation.demand tablePrefix).Meets left a)
    (meets_right : (operation.demand tablePrefix).Meets right b) :
    operation.Agrees tablePrefix left right a b where
  settled answer counted asked := by
    rw [asked] at meets_left meets_right
    exact ⟨meets_left, meets_right⟩
  single record asked := by
    rw [asked] at meets_left meets_right
    refine ⟨fun reached => ?_, fun reached => ?_⟩
    · subst reached
      exact meets_left
    · subst reached
      exact meets_right
  demanded := ⟨meets_left.sent_prefix, meets_right.sent_prefix⟩
  comparable := List.prefix_or_prefix_of_prefix meets_left.sent_prefix meets_right.sent_prefix
  several many := by
    have asked : 1 < (operation.demand tablePrefix).records.length :=
      many.elim (Nat.lt_of_lt_of_le · meets_left.sent_prefix.length_le)
        (Nat.lt_of_lt_of_le · meets_right.sent_prefix.length_le)
    cases demand : operation.demand tablePrefix with
    | change counted first rest => exact Operation.of_demand_eq_change demand
    | nothing answer counted =>
      rw [demand] at asked
      exact absurd asked (Nat.not_lt_zero 1)
    | statement record =>
      rw [demand] at asked
      exact absurd asked (Nat.lt_irrefl 1)
  unreached asks := by
    refine ⟨fun cause unreachable => ?_, fun cause unreachable => ?_⟩
    · subst unreachable
      exact meets_left.unreached asks
    · subst unreachable
      exact meets_right.unreached asks

/-! ## Many operations on two links -/

namespace Operation

/-- Carries out operations one after the other. -/
def session (tablePrefix : String) (link : Link) : List Operation → List Outcome × Link
  | [] => ([], link)
  | operation :: rest =>
    let exchange := operation.run tablePrefix link
    let others := session tablePrefix exchange.link rest
    (exchange.outcome link :: others.1, others.2)

theorem cause?_run (tablePrefix : String) (link : Link) (operation : Operation) :
    (operation.run tablePrefix link).link.cause? = link.cause? :=
  (Plan.run_kept link (operation.plan tablePrefix)).1

theorem outcome_meets (tablePrefix : String) (link : Link) (operation : Operation) :
    (operation.demand tablePrefix).Meets link.cause?
      ((operation.run tablePrefix link).outcome link) := by
  rw [← demand_plan]
  exact Plan.outcome_meets link (operation.plan tablePrefix)

/-- The log at the end is the log at the beginning with what each operation sent, in order. -/
theorem log_session (tablePrefix : String) (operations : List Operation) :
    ∀ link, (session tablePrefix link operations).2.log =
      link.log ++ (session tablePrefix link operations).1.flatMap (·.sent) := by
  induction operations with
  | nil => exact fun link => (List.append_nil link.log).symm
  | cons operation rest ih =>
    intro link
    obtain ⟨-, log⟩ := Plan.run_kept link (operation.plan tablePrefix)
    rw [session, ih, List.flatMap_cons, ← List.append_assoc]
    exact congrArg (· ++ _) log

/-- **What is sent does not depend on the daemon.** The same operations on two links, whatever is
prepared on them and whether they can be reached, agree one by one; and what they sent is all that
the logs gain. -/
theorem session_agrees (tablePrefix : String) (operations : List Operation) (left right : Link) :
    List.Forall₂
        (fun operation (outcomes : Outcome × Outcome) =>
          operation.Agrees tablePrefix left.cause? right.cause? outcomes.1 outcomes.2)
        operations
        ((session tablePrefix left operations).1.zip (session tablePrefix right operations).1) ∧
      ∀ link, (session tablePrefix link operations).2.log =
        link.log ++ (session tablePrefix link operations).1.flatMap (·.sent) := by
  refine ⟨?_, log_session tablePrefix operations⟩
  induction operations generalizing left right with
  | nil => exact .nil
  | cons operation rest ih =>
    have others := ih (operation.run tablePrefix left).link (operation.run tablePrefix right).link
    rw [cause?_run, cause?_run] at others
    exact .cons (.of_meets (outcome_meets tablePrefix left operation)
      (outcome_meets tablePrefix right operation)) others

end Operation

end SearchQL
