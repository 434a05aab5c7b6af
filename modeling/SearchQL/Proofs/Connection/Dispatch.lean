import SearchQL.Connection.Operation

/-!
# Dispatch — how far the statements of a schema change get

A schema change is compiled as a whole and then sent one statement at a time,
without a way back. What a recording link keeps of it is a beginning of its
statements: all of them, or those up to the first that one of the prepared
failures is for. That statement is the last in the log, since a statement is
logged before it is answered.

Two orders meet here. The statement that ends the sending is the first of the
change; the failure that words the error is the first of the link, also where
several of them have a beginning of that statement.

The run lemma is `sendAll_append`, by induction over the statements with the
link left general. What carries it is that logging a statement prepares no
failure and removes none, so that what was accepted before stays accepted.
-/

namespace SearchQL

/-- A statement as it is logged. -/
def Request.entry (channel : Channel) (q : Request) : Record := ⟨channel, q.sql, q.params⟩

namespace Recorder

variable {r : Recorder}

/-! ## Failures -/

/-- Whether a failure is prepared for a statement. -/
def Rejects (r : Recorder) (sql : String) : Prop := ∃ f ∈ r.failures, f.1.toList <+: sql.toList

instance (r : Recorder) (sql : String) : Decidable (r.Rejects sql) :=
  inferInstanceAs (Decidable (∃ f ∈ r.failures, f.1.toList <+: sql.toList))

theorem beginsWith_iff {beginning sql : String} :
    beginsWith beginning sql = true ↔ beginning.toList <+: sql.toList := List.isPrefixOf_iff_prefix

theorem failure?_eq_none_iff {sql : String} : r.failure? sql = none ↔ ¬ r.Rejects sql := by
  simp [failure?, Rejects, beginsWith_iff]

/-- The message is that of the earliest failure that is for the statement. -/
theorem failure?_eq_some_iff {sql message : String} :
    r.failure? sql = some message ↔
      ∃ earlier beginning later, r.failures = earlier ++ (beginning, message) :: later ∧
        beginning.toList <+: sql.toList ∧ ∀ f ∈ earlier, ¬ f.1.toList <+: sql.toList := by
  simp only [failure?, Option.map_eq_some_iff, List.find?_eq_some_iff_append, beginsWith_iff,
    Bool.not_eq_eq_eq_not, Bool.not_true, Bool.eq_false_iff, ne_eq]
  constructor
  · rintro ⟨⟨beginning, _⟩, ⟨begins, earlier, later, split, unmet⟩, rfl⟩
    exact ⟨earlier, beginning, later, split, begins, unmet⟩
  · rintro ⟨earlier, beginning, later, split, begins, unmet⟩
    exact ⟨(beginning, message), ⟨begins, earlier, later, split, unmet⟩, rfl⟩

/-- Of statements in a row, either all are accepted or there is a first that is not. -/
theorem accepted_or_first_rejected (r : Recorder) (requests : List Request) :
    (∀ q ∈ requests, r.failure? q.sql = none) ∨
      ∃ before q after message, requests = before ++ q :: after ∧
        (∀ p ∈ before, r.failure? p.sql = none) ∧ r.failure? q.sql = some message := by
  cases found : requests.find? fun q => (r.failure? q.sql).isSome with
  | none =>
    left
    simpa using found
  | some q =>
    right
    obtain ⟨rejected, before, after, split, accepted⟩ := List.find?_eq_some_iff_append.mp found
    obtain ⟨message, met⟩ := Option.isSome_iff_exists.mp rejected
    exact ⟨before, q, after, message, split, by simpa using accepted, met⟩

/-! ## The log -/

/-- Adds statements that only count rows to the log. -/
def recordAll (r : Recorder) (requests : List Request) : Recorder :=
  { r with log := r.log ++ requests.map (Request.entry .affected) }

theorem recordAll_nil (r : Recorder) : r.recordAll [] = r := by simp [recordAll]

theorem recordAll_record (r : Recorder) (request : Request) (rest : List Request) :
    (r.record .affected request).recordAll rest = r.recordAll (request :: rest) := by
  simp [recordAll, record, Request.entry]

theorem record_recordAll (r : Recorder) (before : List Request) (request : Request) :
    (r.recordAll before).record .affected request = r.recordAll (before ++ [request]) := by
  simp [recordAll, record, Request.entry]

end Recorder

namespace Plan

variable {r : Recorder}

/-! ## Sending -/

theorem execute_accepted {request : Request} (accepted : r.failure? request.sql = none) :
    Link.execute request (.recording r) =
      ⟨.recording (r.record .affected request), .ok (r.affectedBy request.sql),
        [.statement request.kind true, .timed request.kind]⟩ := by
  rw [Link.execute, Link.send, accepted]
  rfl

theorem execute_rejected {request : Request} {message : String}
    (rejected : r.failure? request.sql = some message) :
    Link.execute request (.recording r) =
      ⟨.recording (r.record .affected request), .error (.execution message),
        [.statement request.kind false, .timed request.kind]⟩ := by
  rw [Link.execute, Link.send, rejected]
  rfl

/-- Statements that are accepted are logged, and the sending goes on behind them. -/
theorem sendAll_append (before rest : List Request) :
    ∀ r : Recorder, (∀ q ∈ before, r.failure? q.sql = none) →
      (sendAll (.recording r) (before ++ rest)).link =
          (sendAll (.recording (r.recordAll before)) rest).link ∧
        (sendAll (.recording r) (before ++ rest)).answer =
          (sendAll (.recording (r.recordAll before)) rest).answer := by
  induction before with
  | nil =>
    intro r _
    rw [r.recordAll_nil]
    exact ⟨rfl, rfl⟩
  | cons first before ih =>
    intro r accepted
    obtain ⟨first_accepted, accepted⟩ := List.forall_mem_cons.mp accepted
    rw [List.cons_append, sendAll, execute_accepted first_accepted, ← r.recordAll_record]
    exact ih (r.record .affected first) accepted

theorem sendAll_accepted {requests : List Request}
    (accepted : ∀ q ∈ requests, r.failure? q.sql = none) :
    (sendAll (.recording r) requests).link = .recording (r.recordAll requests) ∧
      (sendAll (.recording r) requests).answer = .ok () := by
  have sent := sendAll_append requests [] r accepted
  rwa [List.append_nil] at sent

/-- A statement that is rejected is the last to be logged. -/
theorem sendAll_rejected {before : List Request} (request : Request) {message : String}
    (accepted : ∀ q ∈ before, r.failure? q.sql = none)
    (rejected : r.failure? request.sql = some message) (after : List Request) :
    (sendAll (.recording r) (before ++ request :: after)).link =
        .recording (r.recordAll (before ++ [request])) ∧
      (sendAll (.recording r) (before ++ request :: after)).answer =
        .error (.execution message) := by
  have sent := sendAll_append before (request :: after) r accepted
  have rejected : (r.recordAll before).failure? request.sql = some message := rejected
  rw [sendAll, execute_rejected rejected, r.record_recordAll] at sent
  exact sent

/-- The link keeps a beginning of the statements, and nothing else of it changes. -/
theorem exists_sendAll_link (r : Recorder) (requests : List Request) :
    ∃ sent, sent <+: requests ∧ (sendAll (.recording r) requests).link =
      .recording (r.recordAll sent) := by
  obtain accepted | ⟨before, request, after, message, split, accepted, rejected⟩ :=
    r.accepted_or_first_rejected requests
  · exact ⟨requests, List.prefix_rfl, (sendAll_accepted accepted).1⟩
  · refine ⟨before ++ [request], ⟨after, ?_⟩, ?_⟩
    · rw [split, List.append_assoc, List.singleton_append]
    · rw [split]
      exact (sendAll_rejected request accepted rejected after).1

end Plan

/-! ## Schema changes -/

namespace ChangeSet

/-- A statement of a change as a request. -/
def request (sql : String) : Request := ⟨.alter, sql, []⟩

theorem plan_eq_sequence {tablePrefix : String} {s : ChangeSet} {statements : List String}
    (compiled : s.statements tablePrefix = .ok statements) (notes : List Measurement) :
    s.plan tablePrefix notes = .sequence notes (statements.map request) := by
  rw [plan, compiled]
  rfl

theorem plan_eq_settled {tablePrefix : String} {s : ChangeSet} {e : Error}
    (failed : s.statements tablePrefix = .error e) (notes : List Measurement) :
    s.plan tablePrefix notes = .settled (notes ++ e.refusals) (.error e) := by
  rw [plan, failed]

end ChangeSet

namespace Recorder

/-- A link that has been sent statements without parameters, one after the other. -/
def logged (r : Recorder) (statements : List String) : Recorder :=
  { r with log := r.log ++ statements.map fun sql => ⟨.affected, sql, []⟩ }

theorem forall_request_accepted {r : Recorder} {statements : List String}
    (accepted : ∀ sql ∈ statements, ¬ r.Rejects sql) :
    ∀ q ∈ statements.map ChangeSet.request, r.failure? q.sql = none :=
  List.forall_mem_map.mpr fun sql mem => failure?_eq_none_iff.mpr (accepted sql mem)

theorem recordAll_map_request (r : Recorder) (statements : List String) :
    r.recordAll (statements.map ChangeSet.request) = r.logged statements := by
  rw [recordAll, logged, List.map_map]
  rfl

end Recorder

namespace Operation

variable (tablePrefix : String) {table : String} {script : ChangeScript} {s : ChangeSet}

/-- A schema change whose script fails is that failure and nothing more. -/
theorem run_alter_of_script_error {e : Error}
    (failed : (({ table } : ChangeSet).follow script).2 = .error e) (link : Link) :
    ((alter table script).run tablePrefix link).link = link ∧
      ((alter table script).run tablePrefix link).answer = .error e := by
  rcases followed : ({ table } : ChangeSet).follow script with ⟨notes, outcome⟩
  rw [followed] at failed
  cases failed
  rw [run, plan, ChangeSet.scriptPlan, followed]
  exact ⟨rfl, rfl⟩

/-- A schema change whose script succeeds is the change set that it declares. -/
theorem plan_alter_of_script_ok (done : (({ table } : ChangeSet).follow script).2 = .ok s) :
    ∃ notes, (alter table script).plan tablePrefix = s.plan tablePrefix notes := by
  rcases followed : ({ table } : ChangeSet).follow script with ⟨notes, outcome⟩
  rw [followed] at done
  cases done
  exact ⟨notes, by rw [plan, ChangeSet.scriptPlan, followed]⟩

/-- A schema change that does not compile is that failure and nothing more. -/
theorem run_alter_of_statements_error {e : Error}
    (done : (({ table } : ChangeSet).follow script).2 = .ok s)
    (failed : s.statements tablePrefix = .error e) (link : Link) :
    ((alter table script).run tablePrefix link).link = link ∧
      ((alter table script).run tablePrefix link).answer = .error e := by
  obtain ⟨notes, planned⟩ := plan_alter_of_script_ok tablePrefix done
  rw [run, planned, ChangeSet.plan_eq_settled failed]
  exact ⟨rfl, rfl⟩

/-- A schema change that compiles is its statements, sent in order. -/
theorem run_alter_of_statements_ok {statements : List String}
    (done : (({ table } : ChangeSet).follow script).2 = .ok s)
    (compiled : s.statements tablePrefix = .ok statements) (link : Link) :
    ((alter table script).run tablePrefix link).link =
        (Plan.sendAll link (statements.map ChangeSet.request)).link ∧
      ((alter table script).run tablePrefix link).answer =
        (Plan.sendAll link (statements.map ChangeSet.request)).answer.map fun _ => .done := by
  obtain ⟨notes, planned⟩ := plan_alter_of_script_ok tablePrefix done
  rw [run, planned, ChangeSet.plan_eq_sequence compiled]
  exact ⟨rfl, rfl⟩

/-- A schema change is not sent at all when its script or its compilation fails. Otherwise its
statements are logged in order, all of them if no failure is prepared for any, and else those up to
the first that is rejected; the answer then is the message of the earliest failure for that one. -/
theorem alter_stops_at_first_rejected (tablePrefix table : String) (script : ChangeScript)
    (r : Recorder) :
    let exchange := (alter table script).run tablePrefix (.recording r)
    let declared := (({ table } : ChangeSet).follow script).2
    (∀ e, declared = .error e → exchange.link = .recording r ∧ exchange.answer = .error e) ∧
    (∀ s e, declared = .ok s → s.statements tablePrefix = .error e →
      exchange.link = .recording r ∧ exchange.answer = .error e) ∧
    ∀ s statements, declared = .ok s → s.statements tablePrefix = .ok statements →
      ((∀ sql ∈ statements, ¬ r.Rejects sql) →
        exchange.link = .recording (r.logged statements) ∧ exchange.answer = .ok .done) ∧
      ∀ before sql after, statements = before ++ sql :: after →
        (∀ earlier ∈ before, ¬ r.Rejects earlier) → r.Rejects sql →
        exchange.link = .recording (r.logged (before ++ [sql])) ∧
        ∃ unmet beginning message others, r.failures = unmet ++ (beginning, message) :: others ∧
          (∀ f ∈ unmet, ¬ f.1.toList <+: sql.toList) ∧ beginning.toList <+: sql.toList ∧
          exchange.answer = .error (.execution message) := by
  refine ⟨fun e failed => run_alter_of_script_error tablePrefix failed _,
    fun s e done failed => run_alter_of_statements_error tablePrefix done failed _,
    fun s statements done compiled => ?_⟩
  obtain ⟨link, answer⟩ := run_alter_of_statements_ok tablePrefix done compiled (.recording r)
  refine ⟨fun accepted => ?_, fun before sql after split accepted rejected => ?_⟩
  · obtain ⟨logged, answered⟩ := Plan.sendAll_accepted (Recorder.forall_request_accepted accepted)
    rw [link, answer, logged, answered, r.recordAll_map_request]
    exact ⟨rfl, rfl⟩
  · obtain ⟨message, met⟩ : ∃ message, r.failure? sql = some message :=
      Option.ne_none_iff_exists'.mp fun none => Recorder.failure?_eq_none_iff.mp none rejected
    obtain ⟨unmet, beginning, others, earliest, begins, passed⟩ :=
      Recorder.failure?_eq_some_iff.mp met
    obtain ⟨logged, answered⟩ := Plan.sendAll_rejected (ChangeSet.request sql)
      (Recorder.forall_request_accepted accepted) met (after.map ChangeSet.request)
    rw [split, List.map_append, List.map_cons] at link answer
    rw [link, answer, logged, answered, ← List.map_singleton, ← List.map_append,
      r.recordAll_map_request]
    exact ⟨rfl, unmet, beginning, message, others, earliest, passed, begins, rfl⟩

/-- The second of three statements is rejected. The first failure is for another column; the other
two are for this one, and the earlier of them words the error. -/
theorem alter_stops_at_first_rejected_overlapping :
    let r : Recorder :=
      { failures := [("ALTER TABLE rt_items ADD COLUMN bb", "too long"),
          ("ALTER TABLE rt_items ADD COLUMN b", "duplicate attribute"),
          ("ALTER TABLE rt_items ADD COLUMN b INTEGER", "too late")] }
    let calls : List ScriptedCall :=
      [⟨.declareKind .integer "a" [], false⟩, ⟨.refused .unique, true⟩,
        ⟨.dropColumns ["c"], false⟩, ⟨.declareKind .integer "b" [], false⟩]
    let exchange := (alter "items" calls).run "rt_" (.recording r)
    exchange.link = .recording (r.logged ["ALTER TABLE rt_items ADD COLUMN a INTEGER",
      "ALTER TABLE rt_items ADD COLUMN b INTEGER"]) ∧
    exchange.answer = .error (.execution "duplicate attribute") := by
  intro r calls exchange
  obtain ⟨-, -, sent⟩ := alter_stops_at_first_rejected "rt_" "items" calls r
  obtain ⟨-, stopped⟩ := sent _ _ rfl rfl
  obtain ⟨link, -⟩ := stopped ["ALTER TABLE rt_items ADD COLUMN a INTEGER"]
    "ALTER TABLE rt_items ADD COLUMN b INTEGER" ["ALTER TABLE rt_items DROP COLUMN c"] (by rfl)
    (by decide +kernel) (by decide +kernel)
  refine ⟨link, ?_⟩
  simp only [exchange, calls, r]
  rfl

end Operation

end SearchQL
