import Mathlib.Data.Fintype.Prod
import SearchQL.Connection.Metrics

/-!
# Counters — one name for each event

What a connection counts is found again under names: `Measurement.label` writes
the metric and its labels as one text. A counter shows every event of its name,
so it says something about one event only if no other event has that name.

The names of two metrics part within their first eighteen characters, which no
label belongs to. Within one metric the names of the kinds and of the features
decide.
-/

namespace SearchQL

/-! ## The labels -/

instance : Fintype StatementKind :=
  Fintype.ofList [.select, .count, .insert, .replace, .update, .delete, .truncate, .desc, .show,
    .alter, .statement, .affecting] fun kind => by cases kind <;> decide

instance : Fintype Feature := Fintype.ofList Feature.all fun feature => by cases feature <;> decide

theorem StatementKind.name_injective : Function.Injective StatementKind.name := by
  have distinct : ∀ a b : StatementKind, a.name = b.name → a = b := by decide +kernel
  exact fun a b => distinct a b

theorem Feature.name_injective : Function.Injective Feature.name := by
  have distinct : ∀ a b : Feature, a.name = b.name → a = b := by decide +kernel
  exact fun a b => distinct a b

namespace Measurement

/-! ## The names -/

/-- The beginning of the names of a metric. -/
def family : Measurement → String
  | statement _ _ => "sphinx_statements_"
  | timed _ => "sphinx_statement_s"
  | refusal _ => "sphinx_capability_"
  | shortCircuit => "sphinx_short_circu"

/-- The kind and the status of a statement as they stand in its name. -/
def statementLabels (kind : StatementKind) (success : Bool) : String :=
  kind.name ++ (",status=" ++ (if success then "success" else "error"))

/-- What follows the beginning in the name of an event. -/
def ending : Measurement → String
  | statement kind success => "total\x7bkind=" ++ (statementLabels kind success ++ "\x7d")
  | timed kind => "econds\x7bkind=" ++ (kind.name ++ "\x7d")
  | refusal feature => "rejections_total\x7bfeature=" ++ (feature.name ++ "\x7d")
  | shortCircuit => "it_queries_total\x7b\x7d"

theorem label_eq_append (e : Measurement) : e.label = e.family ++ e.ending := by
  cases e with
  | statement kind success =>
    show _ = "sphinx_statements_" ++
      ("total\x7bkind=" ++ (kind.name ++ (",status=" ++ _) ++ "\x7d"))
    simp only [← String.append_assoc]
    rfl
  | timed kind =>
    show _ = "sphinx_statement_s" ++ ("econds\x7bkind=" ++ (kind.name ++ "\x7d"))
    simp only [← String.append_assoc]
    rfl
  | refusal feature =>
    show _ = "sphinx_capability_" ++ ("rejections_total\x7bfeature=" ++ (feature.name ++ "\x7d"))
    simp only [← String.append_assoc]
    rfl
  | shortCircuit => rfl

theorem length_family (e : Measurement) : e.family.toList.length = 18 := by
  cases e <;> simp [family]

theorem statementLabels_injective {kind kind' : StatementKind} {success success' : Bool}
    (same : statementLabels kind success = statementLabels kind' success') :
    kind = kind' ∧ success = success' := by
  have distinct : ∀ a b : StatementKind × Bool,
      statementLabels a.1 a.2 = statementLabels b.1 b.2 → a = b := by decide +kernel
  exact Prod.mk.inj (distinct (kind, success) (kind', success') same)

/-- No two events have one name. -/
theorem label_injective : Function.Injective label := by
  intro a b same
  rw [label_eq_append, label_eq_append, ← String.toList_inj, String.toList_append,
    String.toList_append] at same
  obtain ⟨families, endings⟩ :=
    List.append_inj same ((length_family a).trans (length_family b).symm)
  rw [String.toList_inj] at families endings
  cases a with
  | statement kind success =>
    cases b with
    | statement kind' success' =>
      have labels : statementLabels kind success = statementLabels kind' success' :=
        (String.append_left_inj _).mp ((String.append_right_inj _).mp endings)
      obtain ⟨rfl, rfl⟩ := statementLabels_injective labels
      rfl
    | _ => simp [family] at families
  | timed kind =>
    cases b with
    | timed kind' =>
      have names : kind.name = kind'.name :=
        (String.append_left_inj _).mp ((String.append_right_inj _).mp endings)
      exact congrArg timed (StatementKind.name_injective names)
    | _ => simp [family] at families
  | refusal feature =>
    cases b with
    | refusal feature' =>
      have names : feature.name = feature'.name :=
        (String.append_left_inj _).mp ((String.append_right_inj _).mp endings)
      exact congrArg refusal (Feature.name_injective names)
    | _ => simp [family] at families
  | shortCircuit =>
    cases b with
    | shortCircuit => rfl
    | _ => simp [family] at families

/-! ## The counters -/

/-- What the counter of an event shows: everything that was counted under its name. -/
def shown (counted : List Measurement) (e : Measurement) : Nat :=
  counted.countP fun other => other.label = e.label

/-- A counter shows how often its event occurred. -/
theorem shown_eq_count (counted : List Measurement) (e : Measurement) :
    shown counted e = counted.count e := by
  rw [shown, List.count]
  refine List.countP_congr fun other _ => ?_
  rw [decide_eq_true_iff, beq_iff_eq]
  exact label_injective.eq_iff

end Measurement

end SearchQL
