import SearchQL.Feature

/-!
# Metrics — what a connection counts

A connection counts the statements it completes by kind and status, the features
it refuses and the queries it answers without sending them, and takes the time of
each statement. The times themselves depend on the daemon and are not kept here;
that one was taken is.

Each event is a `Measurement`. A statement that completes makes two, one for the
counter and one for the timer.
-/

namespace SearchQL

/-- What a statement is for. -/
inductive StatementKind where
  | select
  | count
  | insert
  | replace
  | update
  | delete
  | truncate
  | desc
  | show
  | alter
  | statement
  | affecting
deriving DecidableEq, Repr

/-- The label of a kind of statement. -/
def StatementKind.name : StatementKind → String
  | select => "select"
  | count => "count"
  | insert => "insert"
  | replace => "replace"
  | update => "update"
  | delete => "delete"
  | truncate => "truncate"
  | desc => "desc"
  | .show => "show"
  | alter => "alter"
  | statement => "statement"
  | affecting => "affecting"

/-- An event that is counted. -/
inductive Measurement where
  /-- A statement completed, with success or with an error. -/
  | statement (kind : StatementKind) (success : Bool)
  /-- The time of a statement was taken. -/
  | timed (kind : StatementKind)
  /-- A feature was refused. -/
  | refusal (feature : Feature)
  /-- A query was answered without being sent. -/
  | shortCircuit
deriving DecidableEq, Repr

namespace Measurement

/-- The name under which an event is counted, with its labels. -/
def label : Measurement → String
  | statement kind success =>
    "sphinx_statements_total\x7bkind=" ++ kind.name ++ ",status=" ++
      (if success then "success" else "error") ++ "\x7d"
  | timed kind => "sphinx_statement_seconds\x7bkind=" ++ kind.name ++ "\x7d"
  | refusal feature => "sphinx_capability_rejections_total\x7bfeature=" ++ feature.name ++ "\x7d"
  | shortCircuit => "sphinx_short_circuit_queries_total\x7b\x7d"

/-- How often each event occurred, in the order of its first occurrence. -/
def tally (events : List Measurement) : List (Measurement × Nat) :=
  events.eraseDups.map fun e => (e, events.count e)

end Measurement

end SearchQL
