import SearchQL.Schema.Script

/-!
# Refusals — what a script of declarations counts

A script counts refusals while it runs and does not say which call each of them
belongs to. This module goes by the calls: `scriptErrors` lists the errors that
they come to, also those that the script lets pass, up to the one that ends it.

A refusal is one of these errors and nothing else (`runScript_notes`). So the
count of a feature is the number of calls that were refused for it, once each
(`count_runScript`).
-/

namespace SearchQL

/-- How often an error counts as the refusal of a feature. -/
theorem Error.count_refusals (e : Error) (feature : Feature) :
    e.refusals.count (.refusal feature) = [e].count (.unsupported feature) := by
  cases e with
  | unsupported other =>
    show [Measurement.refusal other].count (.refusal feature) = _
    rw [List.count_singleton, List.count_singleton]
    simp only [beq_iff_eq, Measurement.refusal.injEq, unsupported.injEq]
  | _ => rfl

theorem Error.count_flatMap_refusals (errors : List Error) (feature : Feature) :
    (errors.flatMap Error.refusals).count (.refusal feature) =
      errors.count (.unsupported feature) := by
  induction errors with
  | nil => rfl
  | cons e rest ih =>
    rw [List.flatMap_cons, List.count_append, ih, e.count_refusals, ← List.count_append,
      List.singleton_append]

/-- The error of an outcome, if it is one. -/
def Error.ofOutcome {α : Type} : Except Error α → List Error
  | .ok _ => []
  | .error e => [e]

namespace ChangeSet

/-- The errors that the calls of a script come to, in order. -/
def scriptErrors (s : ChangeSet) : List ScriptedCall → List Error
  | [] => []
  | scripted :: rest =>
    match scripted.call.apply s with
    | (.ok (), s) => scriptErrors s rest
    | (.error e, s) => e :: if scripted.mayFail then scriptErrors s rest else []

/-- What a script counts is what its errors count. -/
theorem runScript_notes (script : List ScriptedCall) :
    ∀ s : ChangeSet,
      (s.runScript script).notes = (s.scriptErrors script).flatMap Error.refusals := by
  induction script with
  | nil =>
    intro s
    rfl
  | cons scripted rest ih =>
    intro s
    rw [runScript, scriptErrors]
    rcases scripted.call.apply s with ⟨e | _, s'⟩
    · cases scripted.mayFail with
      | true =>
        show e.refusals ++ (s'.runScript rest).notes =
          (e :: s'.scriptErrors rest).flatMap Error.refusals
        rw [ih, List.flatMap_cons]
      | false => exact (List.append_nil e.refusals).symm
    · exact ih s'

/-- A feature is counted once for each call that was refused for it. -/
theorem count_runScript (s : ChangeSet) (script : List ScriptedCall) (feature : Feature) :
    (s.runScript script).notes.count (.refusal feature) =
      (s.scriptErrors script).count (.unsupported feature) := by
  rw [runScript_notes, Error.count_flatMap_refusals]

end ChangeSet

end SearchQL
