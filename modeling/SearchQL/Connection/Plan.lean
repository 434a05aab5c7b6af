import SearchQL.Column.Type
import SearchQL.Connection.Link
import SearchQL.Error

/-!
# Plans — what an operation sends, decided before anything is sent

Whatever an operation is, it comes to one of four plans, and which one never
depends on the daemon:

- `settled`: the answer is known and nothing is sent. Refusals, conversions that
  fail and queries that match nothing end here;
- `fetch`: one statement is sent for its rows, which are then read;
- `execute`: one statement is sent for the number of rows it affects;
- `sequence`: statements are sent one after the other up to the first that fails.

A plan also notes what is to be counted whatever comes of it. `Plan.run` is the
only place where a statement meets a link.
-/

namespace SearchQL

/-- The answer of an operation. -/
inductive Answer where
  | done
  | flag (b : Bool)
  | number (n : UInt64)
  | names (list : List String)
  | columnType (type : Option ColumnType)
  | rows (list : List Row)
  | row (found : Option Row)

/-- What an operation sends and how its answer is read. -/
inductive Plan where
  | settled (notes : List Measurement) (answer : Except Error Answer)
  | fetch (request : Request) (read : List Row → Except Error Answer)
  | execute (request : Request) (read : UInt64 → Answer)
  | sequence (notes : List Measurement) (requests : List Request)

namespace Plan

/-- The plan of an operation that fails before anything is sent. -/
def fail (e : Error) : Plan := settled [] (.error e)

/-- The plan of an operation that needs a feature the daemon lacks. -/
def refuse (feature : Feature) : Plan := settled [.refusal feature] (.error (.unsupported feature))

/-- The plan that follows from a conversion, if it succeeds. -/
def after {α : Type} (converted : Except Error α) (next : α → Plan) : Plan :=
  match converted with
  | .ok v => next v
  | .error e => fail e

/-- Sends statements up to the first that fails. -/
def sendAll (link : Link) : List Request → Exchange Unit
  | [] => ⟨link, .ok (), []⟩
  | request :: rest =>
    let first := link.execute request
    match first.answer with
    | .error e => ⟨first.link, .error e, first.measurements⟩
    | .ok _ =>
      let others := sendAll first.link rest
      ⟨others.link, others.answer, first.measurements ++ others.measurements⟩

/-- Carries out a plan on a link. -/
def run (link : Link) : Plan → Exchange Answer
  | settled notes answer => ⟨link, answer, notes⟩
  | fetch request read =>
    let sent := link.fetch request
    ⟨sent.link, sent.answer.bind read, sent.measurements⟩
  | execute request read =>
    let sent := link.execute request
    ⟨sent.link, sent.answer.map read, sent.measurements⟩
  | sequence notes requests =>
    let sent := sendAll link requests
    ⟨sent.link, sent.answer.map fun _ => .done, notes ++ sent.measurements⟩

end Plan

end SearchQL
