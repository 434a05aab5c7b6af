import Mathlib.Algebra.BigOperators.Group.Finset.Piecewise
import SearchQL.Proofs.Connection.Counter
import SearchQL.Proofs.Connection.Independence
import SearchQL.Proofs.Connection.Supported
import SearchQL.Proofs.Schema.Refusal

/-!
# Accounting — the counters and the log agree about a run

A run is a list of operations on one link, with changes of what is prepared on
it in between. What the run counted is compared with what happened in it: the
statements that were sent, those of them that were rejected, the errors of the
calls and the queries that needed no statement.

`Accounted` is the comparison, for any list of events. It is closed under putting
lists after each other, so it is shown for one statement and for what an operation
counts whatever is answered, then for a plan (`Plan.accounted_run`), for one
operation (the step lemma, `Episode.accounted`) and for a run.

Two of the sides cannot be read off a link. The errors of a change script are
those of its calls, also where the script lets them pass (`ChangeScript.errors`);
the reason for which a script is given up belongs to no call. A query needs no
statement when the one that it compiles to matches nothing
(`Operation.withoutRows`), which is decided before anything is sent.
-/

namespace SearchQL

open Measurement (shown)

/-! ## Runs -/

/-- A change of what a recording link has prepared, or of its log. -/
inductive Preparation where
  | respond (sql : String) (rows : List Row)
  | affect (sql : String) (count : UInt64)
  | failOn (beginning message : String)
  | clear

/-- Makes a change to a recording link. -/
def Link.prepare (preparation : Preparation) : Link → Link
  | recording r =>
    recording <|
      match preparation with
      | .respond sql rows => r.respond sql rows
      | .affect sql count => r.affect sql count
      | .failOn beginning message => r.failOn beginning message
      | .clear => r.clear
  | unreachable cause => unreachable cause

/-- A step of a run: an operation, or a change between operations. -/
inductive Step where
  | operate (operation : Operation)
  | prepare (preparation : Preparation)

/-- An operation of a run, with the link that it met and what came of it. -/
structure Episode where
  operation : Operation
  before : Link
  exchange : Exchange Answer

/-- Carries out steps one after the other. -/
def Step.run (tablePrefix : String) (link : Link) : List Step → List Episode × Link
  | [] => ([], link)
  | operate operation :: rest =>
    let exchange := operation.run tablePrefix link
    let others := run tablePrefix exchange.link rest
    (⟨operation, link, exchange⟩ :: others.1, others.2)
  | prepare preparation :: rest => run tablePrefix (link.prepare preparation) rest

/-! ## What happened in a run -/

/-- Whether a link answers a statement with an execution error. What is prepared does not change
while an operation is carried out, so this holds for all its statements. -/
def Link.rejects (link : Link) (record : Record) : Bool :=
  match (link.send record.channel ⟨.statement, record.sql, record.params⟩ fun _ => ()).answer with
  | .error (.execution _) => true
  | _ => false

/-- The errors of the calls of a schema change: those of its script, and that of compiling what the
script declares. -/
def ChangeScript.errors (tablePrefix table : String) (script : ChangeScript) : List Error :=
  ({ table } : ChangeSet).scriptErrors script.calls ++
    match (({ table } : ChangeSet).follow script).2 with
    | .ok s => Error.ofOutcome (s.statements tablePrefix)
    | .error _ => []

/-- Whether a terminal goes through the filter of its query, and that matches nothing. A write of
rows and a truncation do not. -/
def Terminal.withoutRows (tablePrefix : String) (q : Query) (t : Terminal) : Bool :=
  t.unmatched?.isSome && (t.compile tablePrefix q).toOption.any (·.matchesNothing)

/-- Whether an operation ends in such a terminal. -/
def Operation.withoutRows (tablePrefix : String) : Operation → Bool
  | query table calls terminal =>
    match ({ index := table } : Query).applyCalls calls with
    | .ok q => terminal.withoutRows tablePrefix q
    | .error _ => false
  | find entity id => Terminal.first.withoutRows tablePrefix (entity.query.withId entity.key id)
  | page entity number => Terminal.get.withoutRows tablePrefix (entity.pageQuery number)
  | _ => false

namespace Episode

variable (tablePrefix : String) (e : Episode)

/-- The statements that were sent. -/
def sent : List Record := (e.exchange.outcome e.before).sent

/-- The statements that were answered with an execution error. -/
def rejected : List Record := e.sent.filter e.before.rejects

/-- The errors that calls came to. The calls of a schema change are those of its script, and any
other operation is one call. -/
def errors : List Error :=
  match e.operation with
  | .alter table script => script.errors tablePrefix table
  | _ => Error.ofOutcome e.exchange.answer

end Episode

/-! ## The accounts -/

/-- The events of some counting beside what they count. -/
structure Accounted (counted : List Measurement) (sent rejected : Nat) (errors : List Error)
    (withoutRows : Nat) : Prop where
  /-- The time of every statement was taken. -/
  timed : ∀ kind, shown counted (.timed kind) =
    shown counted (.statement kind true) + shown counted (.statement kind false)
  statements : ∑ kind, ∑ success, shown counted (.statement kind success) = sent
  failures : ∑ kind, shown counted (.statement kind false) = rejected
  refusals : ∀ feature, shown counted (.refusal feature) = errors.count (.unsupported feature)
  shortCircuits : shown counted .shortCircuit = withoutRows

namespace Accounted

theorem shown_append (a b : List Measurement) (e : Measurement) :
    shown (a ++ b) e = shown a e + shown b e :=
  List.countP_append

theorem append {a b : List Measurement}
    {sent sent' rejected rejected' withoutRows withoutRows' : Nat} {errors errors' : List Error}
    (left : Accounted a sent rejected errors withoutRows)
    (right : Accounted b sent' rejected' errors' withoutRows') :
    Accounted (a ++ b) (sent + sent') (rejected + rejected') (errors ++ errors')
      (withoutRows + withoutRows') where
  timed kind := by
    simp only [shown_append, left.timed, right.timed]
    omega
  statements := by
    simp only [shown_append, Finset.sum_add_distrib, left.statements, right.statements]
  failures := by
    simp only [shown_append, Finset.sum_add_distrib, left.failures, right.failures]
  refusals feature := by
    rw [shown_append, left.refusals, right.refusals, List.count_append]
  shortCircuits := by rw [shown_append, left.shortCircuits, right.shortCircuits]

theorem nil : Accounted [] 0 0 [] 0 where
  timed _ := rfl
  statements := Finset.sum_eq_zero fun _ _ => Finset.sum_eq_zero fun _ _ => rfl
  failures := Finset.sum_eq_zero fun _ _ => rfl
  refusals _ := rfl
  shortCircuits := rfl

theorem shortCircuit : Accounted [.shortCircuit] 0 0 [] 1 where
  timed kind := by simp [Measurement.shown_eq_count]
  statements := by simp [Measurement.shown_eq_count]
  failures := by simp [Measurement.shown_eq_count]
  refusals feature := by simp [Measurement.shown_eq_count]
  shortCircuits := by simp [Measurement.shown_eq_count]

theorem refusals_of (e : Error) : Accounted e.refusals 0 0 [e] 0 := by
  have others : ∀ m, (∀ feature, m ≠ .refusal feature) → shown e.refusals m = 0 := by
    intro m ne
    rw [Measurement.shown_eq_count]
    cases e with
    | unsupported feature =>
      exact List.count_eq_zero.mpr fun mem => ne feature (List.mem_singleton.mp mem)
    | _ => rfl
  exact {
    timed := fun kind => by simp [others]
    statements := by simp [others]
    failures := by simp [others]
    refusals := fun feature => (Measurement.shown_eq_count _ _).trans (e.count_refusals feature)
    shortCircuits := others _ nofun }

/-- A statement that completes is counted once and its time is taken once. -/
theorem completed (kind : StatementKind) (success : Bool) :
    Accounted [.statement kind success, .timed kind] 1 (if success then 0 else 1) [] 0 where
  timed other := by
    cases success <;> simp [Measurement.shown_eq_count, List.count_cons]
  statements := by
    cases success <;> simp [Measurement.shown_eq_count, List.count_cons, ite_and]
  failures := by
    cases success <;> simp [Measurement.shown_eq_count, List.count_cons]
  refusals feature := by simp [Measurement.shown_eq_count]
  shortCircuits := by simp [Measurement.shown_eq_count]

theorem flatMap_refusals (errors : List Error) :
    Accounted (errors.flatMap Error.refusals) 0 0 errors 0 := by
  induction errors with
  | nil => exact nil
  | cons e rest ih =>
    rw [List.flatMap_cons]
    exact (refusals_of e).append ih

end Accounted

/-! ## Plans -/

namespace Link

/-- The events of a statement that is sent. -/
def measured (link : Link) (channel : Channel) (request : Request) : List Measurement :=
  [.statement request.kind (!link.rejects (request.entry channel)), .timed request.kind]

theorem rejects_recording (r : Recorder) (record : Record) :
    (recording r).rejects record = (r.failure? record.sql).isSome := by
  rw [rejects, send]
  cases r.failure? record.sql <;> rfl

/-- Logging a statement prepares no failure and removes none. -/
theorem measured_record (r : Recorder) (channel : Channel) (request : Request) :
    (recording (r.record channel request)).measured = (recording r).measured := by
  funext channel request
  rw [measured, measured, rejects_recording, rejects_recording]
  rfl

/-- A statement that is sent on a link that is reached is measured. -/
theorem measurements_send {α : Type} (r : Recorder) (channel : Channel) (request : Request)
    (prepared : Recorder → α) :
    (send channel request prepared (.recording r)).measurements =
      (recording r).measured channel request := by
  have status : (send channel request prepared (.recording r)).answer.toBool =
      !(recording r).rejects (request.entry channel) := by
    rw [rejects_recording, send, Request.entry]
    cases r.failure? request.sql <;> rfl
  rw [measured, ← status]
  rfl

end Link

theorem Demand.counted_ofChange (counted : List Measurement) (statements : List Record) :
    (ofChange counted statements).counted = counted := by
  cases statements <;> rfl

namespace Plan

/-- What is sent of statements is what the log gains, and all of it is measured. -/
theorem exists_sendAll_measured (requests : List Request) :
    ∀ r : Recorder, ∃ sent : List Request,
      (sendAll (.recording r) requests).link = .recording (r.recordAll sent) ∧
        (sendAll (.recording r) requests).measurements =
          sent.flatMap ((Link.recording r).measured .affected) := by
  induction requests with
  | nil => exact fun r => ⟨[], by rw [r.recordAll_nil]; rfl, rfl⟩
  | cons first rest ih =>
    intro r
    have measured := Link.measurements_send r .affected first (·.affectedBy first.sql)
    cases accepted : r.failure? first.sql with
    | some message =>
      rw [sendAll, execute_rejected accepted]
      refine ⟨[first], ?_, ?_⟩
      · rw [← r.recordAll_record, Recorder.recordAll_nil]
      · rw [List.flatMap_singleton, ← measured]
        exact congrArg Exchange.measurements (execute_rejected accepted).symm
    | none =>
      obtain ⟨sent, link, counted⟩ := ih (r.record .affected first)
      rw [Link.measured_record] at counted
      rw [sendAll, execute_accepted accepted]
      refine ⟨first :: sent, ?_, ?_⟩
      · rw [← r.recordAll_record]
        exact link
      · rw [List.flatMap_cons, ← measured, ← counted]
        exact congrArg (Exchange.measurements · ++ _) (execute_accepted accepted).symm

/-- **What a plan counts.** The log gains statements, and what is counted is the notes of the plan
and the measurements of these statements. -/
theorem exists_run_measured (link : Link) (plan : Plan) :
    ∃ channel, ∃ sent : List Request,
      ((plan.run link).outcome link).sent = sent.map (Request.entry channel) ∧
        (plan.run link).measurements =
          plan.demand.counted ++ sent.flatMap (link.measured channel) := by
  cases link with
  | unreachable cause =>
    refine ⟨.rows, [], ?_, ?_⟩
    · rw [Exchange.outcome, run_unreachable_link]
      rfl
    · rw [List.flatMap_nil, List.append_nil]
      cases plan with
      | sequence notes requests =>
        cases requests with
        | nil => rw [run_sequence_nil]; rfl
        | cons first rest => rw [run_sequence_unreachable]; rfl
      | _ => rfl
  | recording r =>
    cases plan with
    | settled notes answer =>
      exact ⟨.rows, [], congrArg Outcome.sent (outcome_unsent _ answer notes),
        (List.append_nil notes).symm⟩
    | fetch request read =>
      refine ⟨.rows, [request], outcome_sent rfl, ?_⟩
      rw [List.flatMap_singleton]
      exact Link.measurements_send r .rows request (·.rowsFor request.sql)
    | execute request read =>
      refine ⟨.affected, [request], outcome_sent rfl, ?_⟩
      rw [List.flatMap_singleton]
      exact Link.measurements_send r .affected request (·.affectedBy request.sql)
    | sequence notes requests =>
      obtain ⟨sent, link, counted⟩ := exists_sendAll_measured requests r
      refine ⟨.affected, sent, outcome_sent link, ?_⟩
      rw [demand, Demand.counted_ofChange]
      exact congrArg (notes ++ ·) counted

/-- The statements that are sent are accounted for by their measurements. -/
theorem accounted_measured (link : Link) (channel : Channel) (sent : List Request) :
    Accounted (sent.flatMap (link.measured channel)) sent.length
      ((sent.map (Request.entry channel)).filter link.rejects).length [] 0 := by
  induction sent with
  | nil => exact .nil
  | cons first rest ih =>
    have whole := (Accounted.completed first.kind (!link.rejects (first.entry channel))).append ih
    have rejected : (if (!link.rejects (first.entry channel)) = true then 0 else 1) +
          ((rest.map (Request.entry channel)).filter link.rejects).length =
        (((first :: rest).map (Request.entry channel)).filter link.rejects).length := by
      rw [List.map_cons, List.filter_cons]
      cases link.rejects (first.entry channel) <;> simp [Nat.add_comm]
    rw [rejected, Nat.add_comm 1] at whole
    exact whole

/-- Where the notes of a plan are accounted for, so is all that it counts when it is carried out. -/
theorem accounted_run {plan : Plan} {errors : List Error} {withoutRows : Nat}
    (noted : Accounted plan.demand.counted 0 0 errors withoutRows) (link : Link) :
    Accounted (plan.run link).measurements ((plan.run link).outcome link).sent.length
      (((plan.run link).outcome link).sent.filter link.rejects).length errors withoutRows := by
  obtain ⟨channel, sent, gained, counted⟩ := exists_run_measured link plan
  have whole := noted.append (accounted_measured link channel sent)
  rw [Nat.zero_add, Nat.zero_add, List.append_nil, Nat.add_zero] at whole
  rw [counted, gained, List.length_map]
  exact whole

end Plan

/-! ## Operations -/

/-- A compiled statement notes that it is not sent, and only where that has an answer. -/
theorem Accounted.counted_ofCompiled (channel : Channel) (unmatched? : Option Answer)
    (compiled : Except Error Statement) :
    Accounted (Demand.ofCompiled channel unmatched? compiled).counted 0 0 []
      (if unmatched?.isSome && compiled.toOption.any (·.matchesNothing) then 1 else 0) := by
  cases compiled with
  | error e => cases unmatched? <;> exact .nil
  | ok s =>
    obtain ⟨fragment, matchesNothing⟩ := s
    cases unmatched? with
    | none => cases matchesNothing <;> exact .nil
    | some answer =>
      cases matchesNothing with
      | true => exact .shortCircuit
      | false => exact .nil

theorem Terminal.accounted_counted (tablePrefix : String) (q : Query) (t : Terminal) :
    Accounted (t.demand tablePrefix q).counted 0 0 []
      (if t.withoutRows tablePrefix q then 1 else 0) :=
  .counted_ofCompiled _ _ _

/-- An outcome that is no refusal adds nothing to the refusals. -/
theorem Accounted.of_supported {α : Type} {x : Except Error α} (supported : Supported x)
    {counted : List Measurement} {sent rejected withoutRows : Nat}
    (accounted : Accounted counted sent rejected [] withoutRows) :
    Accounted counted sent rejected (Error.ofOutcome x) withoutRows where
  timed := accounted.timed
  statements := accounted.statements
  failures := accounted.failures
  refusals feature := by
    rw [accounted.refusals]
    cases x with
    | ok v => rfl
    | error e =>
      have ne : e ≠ .unsupported feature := fun eq => supported feature (congrArg _ eq)
      rw [Error.ofOutcome, List.count_singleton, List.count_nil, if_neg (by simpa using ne)]
  shortCircuits := accounted.shortCircuits

namespace ChangeScript

/-- What a schema change counts are the refusals among the errors of its calls. -/
theorem counted_demand (tablePrefix table : String) (script : ChangeScript) :
    (script.demand tablePrefix table).counted =
      (script.errors tablePrefix table).flatMap Error.refusals := by
  have notes : (({ table } : ChangeSet).follow script).1 =
      (({ table } : ChangeSet).scriptErrors script.calls).flatMap Error.refusals := by
    rw [← ChangeSet.runScript_notes, ChangeSet.follow]
    split <;> simp [*]
  rw [demand, errors, List.flatMap_append, ← notes]
  rcases ({ table } : ChangeSet).follow script with ⟨counted, e | s⟩
  · exact (List.append_nil counted).symm
  · cases compiled : s.statements tablePrefix with
    | error e => simp [compiled, Error.ofOutcome, Demand.counted]
    | ok statements => simp [compiled, Error.ofOutcome, Demand.counted_ofChange]

end ChangeScript

/-- A terminal that goes through a filter that matches nothing asks for no statement. -/
theorem Terminal.demand_of_withoutRows {tablePrefix : String} {q : Query} {t : Terminal}
    (without : t.withoutRows tablePrefix q = true) :
    ∃ answer, t.demand tablePrefix q = .nothing (.ok answer) [.shortCircuit] := by
  rw [withoutRows, Bool.and_eq_true, Option.isSome_iff_exists] at without
  obtain ⟨⟨answer, unmatched⟩, matches_nothing⟩ := without
  refine ⟨answer, ?_⟩
  rw [demand, unmatched]
  cases compiled : t.compile tablePrefix q with
  | error e =>
    rw [compiled] at matches_nothing
    cases matches_nothing
  | ok s =>
    rw [compiled] at matches_nothing
    have nothing : s.matchesNothing = true := matches_nothing
    simp only [Demand.ofCompiled, nothing]

theorem Operation.demand_of_withoutRows {tablePrefix : String} {operation : Operation}
    (without : operation.withoutRows tablePrefix = true) :
    ∃ answer, operation.demand tablePrefix = .nothing (.ok answer) [.shortCircuit] := by
  cases operation with
  | query table calls terminal =>
    rw [withoutRows] at without
    rw [demand]
    cases built : ({ index := table } : Query).applyCalls calls with
    | error e =>
      rw [built] at without
      cases without
    | ok q =>
      rw [built] at without
      exact terminal.demand_of_withoutRows without
  | find entity id => exact Terminal.demand_of_withoutRows without
  | page entity number => exact Terminal.demand_of_withoutRows without
  | _ => cases without

namespace Episode

/-- What an operation counts whatever is answered are its refusals and its short circuit. -/
theorem accounted_counted {tablePrefix : String} {e : Episode}
    (carried : e.exchange = e.operation.run tablePrefix e.before) :
    Accounted (e.operation.demand tablePrefix).counted 0 0 (e.errors tablePrefix)
      (if e.operation.withoutRows tablePrefix then 1 else 0) := by
  obtain ⟨operation, link, _⟩ := e
  obtain rfl : _ = operation.run tablePrefix link := carried
  by_cases schema : operation.OnSchema
  · cases operation with
    | relational operation => exact .refusals_of (.unsupported operation.feature)
    | alter table script =>
      show Accounted (script.demand tablePrefix table).counted _ _ _ _
      rw [script.counted_demand]
      exact .flatMap_refusals _
    | _ => exact schema.elim
  · have supported := (Operation.unrefused_plan tablePrefix schema).supported link
    cases operation with
    | query table calls terminal =>
      refine .of_supported supported ?_
      rw [Operation.demand, Operation.withoutRows]
      cases ({ index := table } : Query).applyCalls calls with
      | error e => exact .nil
      | ok q => exact terminal.accounted_counted tablePrefix q
    | find entity id =>
      exact .of_supported supported (Terminal.first.accounted_counted tablePrefix _)
    | page entity number =>
      exact .of_supported supported (Terminal.get.accounted_counted tablePrefix _)
    | relational operation => exact absurd trivial schema
    | alter table script => exact absurd trivial schema
    | _ => exact .of_supported supported .nil

/-- A filter that matches nothing is answered, and nothing is sent. -/
theorem answered_of_withoutRows {tablePrefix : String} {e : Episode}
    (carried : e.exchange = e.operation.run tablePrefix e.before)
    (without : e.operation.withoutRows tablePrefix = true) :
    e.sent = [] ∧ ∃ answer, e.exchange.answer = .ok answer := by
  obtain ⟨answer, asked⟩ := Operation.demand_of_withoutRows without
  have meets := Operation.outcome_meets tablePrefix e.before e.operation
  rw [asked, ← carried] at meets
  exact ⟨congrArg Outcome.sent meets, answer, congrArg Outcome.answer meets⟩

/-- **The step lemma.** What an operation counts is accounted for by what happened in it. -/
theorem accounted {tablePrefix : String} {e : Episode}
    (carried : e.exchange = e.operation.run tablePrefix e.before) :
    Accounted e.exchange.measurements e.sent.length e.rejected.length (e.errors tablePrefix)
      (if e.operation.withoutRows tablePrefix then 1 else 0) := by
  have noted := accounted_counted carried
  rw [← Operation.demand_plan] at noted
  have whole := Plan.accounted_run noted e.before
  rw [rejected, sent, carried]
  exact whole

/-- What episodes count one after the other is accounted for if each of them was carried out. -/
theorem accounted_flatMap {tablePrefix : String} {episodes : List Episode}
    (carried : ∀ e ∈ episodes, e.exchange = e.operation.run tablePrefix e.before) :
    Accounted (episodes.flatMap (·.exchange.measurements)) (episodes.flatMap sent).length
      (episodes.flatMap rejected).length (episodes.flatMap (errors tablePrefix))
      (episodes.countP (·.operation.withoutRows tablePrefix)) := by
  induction episodes with
  | nil => exact .nil
  | cons first rest ih =>
    obtain ⟨carried_first, carried_rest⟩ := List.forall_mem_cons.mp carried
    have whole := (accounted carried_first).append (ih carried_rest)
    rw [← List.length_append, ← List.length_append, Nat.add_comm (ite _ _ _)] at whole
    rw [List.countP_cons]
    exact whole

end Episode

/-! ## Runs -/

theorem Link.log_prepare {preparation : Preparation} (kept : preparation ≠ .clear) (link : Link) :
    (link.prepare preparation).log = link.log := by
  cases link with
  | unreachable cause => rfl
  | recording r =>
    cases preparation with
    | clear => exact absurd rfl kept
    | _ => rfl

namespace Step

theorem carried_of_mem_run (tablePrefix : String) (steps : List Step) :
    ∀ link : Link, ∀ e ∈ (run tablePrefix link steps).1,
      e.exchange = e.operation.run tablePrefix e.before := by
  induction steps with
  | nil => exact fun _ _ mem => absurd mem List.not_mem_nil
  | cons step rest ih =>
    intro link
    cases step with
    | prepare preparation => exact ih (link.prepare preparation)
    | operate operation =>
      exact List.forall_mem_cons.mpr ⟨rfl, ih (operation.run tablePrefix link).link⟩

/-- As long as the log is not emptied, it gains what the operations send, in order. -/
theorem log_run (tablePrefix : String) {steps : List Step}
    (kept : ∀ step ∈ steps, step ≠ .prepare .clear) :
    ∀ link : Link, (run tablePrefix link steps).2.log =
      link.log ++ (run tablePrefix link steps).1.flatMap Episode.sent := by
  induction steps with
  | nil => exact fun link => (List.append_nil link.log).symm
  | cons step rest ih =>
    intro link
    obtain ⟨kept_first, kept_rest⟩ := List.forall_mem_cons.mp kept
    cases step with
    | prepare preparation =>
      have not_cleared : preparation ≠ .clear := fun eq => kept_first (congrArg prepare eq)
      rw [run, ih kept_rest, Link.log_prepare not_cleared]
    | operate operation =>
      obtain ⟨-, log⟩ := Plan.run_kept link (operation.plan tablePrefix)
      rw [run, ih kept_rest, List.flatMap_cons, ← List.append_assoc]
      exact congrArg (· ++ _) log

/-- **The counters account for a run.** The statements that were sent are what the log has gained,
unless it was emptied on the way, and a query that needed no statement has its answer without. -/
theorem run_accounted (tablePrefix : String) (link : Link) (steps : List Step) :
    let ran := run tablePrefix link steps
    Accounted (ran.1.flatMap (·.exchange.measurements)) (ran.1.flatMap Episode.sent).length
        (ran.1.flatMap Episode.rejected).length (ran.1.flatMap (Episode.errors tablePrefix))
        (ran.1.countP (·.operation.withoutRows tablePrefix)) ∧
      ((∀ step ∈ steps, step ≠ .prepare .clear) →
        ran.2.log = link.log ++ ran.1.flatMap Episode.sent) ∧
      ∀ e ∈ ran.1, e.operation.withoutRows tablePrefix = true →
        e.sent = [] ∧ ∃ answer, e.exchange.answer = .ok answer := by
  intro ran
  have carried := carried_of_mem_run tablePrefix steps link
  refine ⟨Episode.accounted_flatMap carried, fun kept => log_run tablePrefix kept link, ?_⟩
  exact fun e mem => Episode.answered_of_withoutRows (carried e mem)

/-- A refusal that the script lets pass, a filter that matches nothing and a statement that is
rejected: each is counted once. -/
example :
    let steps : List Step :=
      [.operate (.alter "items" { calls := [⟨.refused .unique, true⟩] }),
        .operate (.query (some "items") [.whereIn "id" []] .count),
        .prepare (.failOn "DELETE" "read only"),
        .operate (.query (some "items") [] .delete)]
    (run "" (.recording {}) steps).1.flatMap (·.exchange.measurements) =
      [.refusal .uniqueIndex, .shortCircuit, .statement .delete false, .timed .delete] := rfl

end Step

end SearchQL
