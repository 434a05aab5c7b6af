import SearchQL.Connection.Metrics
import SearchQL.Param

/-!
# Links — where statements go

A statement is sent either for its rows or for the number of rows it affects. A
link takes it in one of two ways:

- a **recording** link keeps a log of everything that is sent, and answers from
  prepared responses: rows for an exact statement text, a number of affected rows,
  or a failure for every text with a given beginning;
- an **unreachable** link fails before anything is sent, so that there is nothing to
  log and nothing to count.

The log grows at its end and by one entry per statement, also for a statement
that then fails.
-/

namespace SearchQL

/-- What is wanted back from a statement. -/
inductive Channel where
  | rows
  | affected
deriving DecidableEq, Repr

/-- A statement on its way to the daemon. -/
structure Request where
  kind : StatementKind
  sql : String
  params : List Param := []
deriving DecidableEq

/-- A statement in the log. -/
structure Record where
  channel : Channel
  sql : String
  params : List Param
deriving DecidableEq

/-- The prepared responses of a recording link, and its log. The latest response for a text is the
first. -/
structure Recorder where
  responses : List (String × List Row) := []
  affected : List (String × UInt64) := []
  /-- Beginnings of statements that fail, each with its message, the earliest first. -/
  failures : List (String × String) := []
  log : List Record := []

namespace Recorder

/-- Prepares the rows of a statement text. -/
def respond (r : Recorder) (sql : String) (rows : List Row) : Recorder :=
  { r with responses := (sql, rows) :: r.responses }

/-- Prepares the number of rows that a statement text affects. -/
def affect (r : Recorder) (sql : String) (count : UInt64) : Recorder :=
  { r with affected := (sql, count) :: r.affected }

/-- Makes every statement with the given beginning fail. -/
def failOn (r : Recorder) (beginning message : String) : Recorder :=
  { r with failures := r.failures ++ [(beginning, message)] }

/-- Empties the log. -/
def clear (r : Recorder) : Recorder := { r with log := [] }

/-- Adds a statement to the log. -/
def record (r : Recorder) (channel : Channel) (request : Request) : Recorder :=
  { r with log := r.log ++ [⟨channel, request.sql, request.params⟩] }

/-- Whether a text has a beginning. -/
def beginsWith (beginning sql : String) : Bool := beginning.toList.isPrefixOf sql.toList

/-- The message of the earliest failure that a statement meets. -/
def failure? (r : Recorder) (sql : String) : Option String :=
  (r.failures.find? fun f => beginsWith f.1 sql).map (·.2)

/-- The rows prepared for a statement; without preparation there are none. -/
def rowsFor (r : Recorder) (sql : String) : List Row :=
  ((r.responses.find? (·.1 = sql)).map (·.2)).getD []

/-- The number of affected rows prepared for a statement; without preparation it is one. -/
def affectedBy (r : Recorder) (sql : String) : UInt64 :=
  ((r.affected.find? (·.1 = sql)).map (·.2)).getD 1

end Recorder

/-- A connection to the daemon as far as statements are concerned. -/
inductive Link where
  | recording (recorder : Recorder)
  | unreachable (cause : String)

/-- What came of sending something: the link afterwards, the answer and what was counted. -/
structure Exchange (α : Type) where
  link : Link
  answer : Except Error α
  measurements : List Measurement

namespace Link

/-- Sends a statement and reads what a recording link has prepared for it. -/
def send {α : Type} (channel : Channel) (request : Request) (prepared : Recorder → α) :
    Link → Exchange α
  | unreachable cause => ⟨unreachable cause, .error (.connection cause), []⟩
  | recording r =>
    let answer : Except Error α :=
      match r.failure? request.sql with
      | some message => .error (.execution message)
      | none => .ok (prepared r)
    ⟨recording (r.record channel request), answer,
      [.statement request.kind answer.toBool, .timed request.kind]⟩

/-- Sends a statement for its rows. -/
def fetch (request : Request) : Link → Exchange (List Row) :=
  send .rows request (·.rowsFor request.sql)

/-- Sends a statement for the number of rows it affects. -/
def execute (request : Request) : Link → Exchange UInt64 :=
  send .affected request (·.affectedBy request.sql)

/-- Everything that is in the log. -/
def log : Link → List Record
  | recording r => r.log
  | unreachable _ => []

end Link

end SearchQL
