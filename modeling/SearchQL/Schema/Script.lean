import SearchQL.Connection.Metrics
import SearchQL.Schema.ChangeSet

/-!
# Change scripts — declarations that may be allowed to fail

A schema change is declared by a script of calls. A call that fails ends the script
with its error, unless the script says that the failure of this call does not
matter; then the script goes on as if the call were not there. A refusal is counted
in either case, because it happened.

A script that has run to its end may still be given up, for a reason of its writer's
own. That reason is no refusal, and nothing is counted for it.
-/

namespace SearchQL

/-- A call of a script. -/
structure ScriptedCall where
  call : ChangeCall
  /-- Whether the script goes on when the call fails. -/
  mayFail : Bool := false

/-- Calls, and the reason for which they are given up when all of them are made, if there is one. -/
structure ChangeScript where
  calls : List ScriptedCall
  reason : Option Error := none

/-- Calls alone are a script that is not given up. -/
instance : Coe (List ScriptedCall) ChangeScript where
  coe calls := { calls }

/-- What an error adds to the counts. -/
def Error.refusals : Error → List Measurement
  | .unsupported feature => [.refusal feature]
  | _ => []

/-- What calls of a script come to. -/
structure ScriptRun where
  /-- The refusals, in the order of the calls. -/
  notes : List Measurement
  outcome : Except Error Unit
  /-- The change set that is left behind. -/
  changes : ChangeSet

namespace ChangeSet

/-- Runs calls on a change set. -/
def runScript (s : ChangeSet) : List ScriptedCall → ScriptRun
  | [] => ⟨[], .ok (), s⟩
  | scripted :: rest =>
    match scripted.call.apply s with
    | (.ok (), s) => runScript s rest
    | (.error e, s) =>
      if scripted.mayFail then
        let others := runScript s rest
        { others with notes := e.refusals ++ others.notes }
      else ⟨e.refusals, .error e, s⟩

/-- Runs the calls of a script on a change set and then gives it up if there is a reason to. Only
what a script that ends well leaves behind is gone on with. -/
def follow (s : ChangeSet) (script : ChangeScript) : List Measurement × Except Error ChangeSet :=
  let ran := s.runScript script.calls
  match ran.outcome, script.reason with
  | .ok (), none => (ran.notes, .ok ran.changes)
  | .ok (), some e => (ran.notes, .error e)
  | .error e, _ => (ran.notes, .error e)

end ChangeSet

end SearchQL
