import Mathlib.Data.List.Forall2
import SearchQL.Param

/-!
# Conversions — rows of values become rows of parameters

Before a row is written each of its values is bound as a parameter. Only arrays
can fail: an array is a multi-value attribute, and what its items denote has to
be integers. This module says which rows convert and to what, and which cell
fails a row or a list of rows.

A conversion goes through a list from the front and stops at the first failure,
so both sides of that are needed: `mapM_eq_pure` for what is before it and
`mapM_eq_error` for what it does to the rest. `mapM_eq_ok_iff` and
`mapM_eq_error_iff` say the same of any list, whatever came of it.
-/

namespace SearchQL

/-! ## Conversions one after the other -/

/-- What is made of a conversion exists if the conversion does. -/
theorem map_eq_ok_iff {α β : Type} {f : α → β} {x : Except Error α} {b : β} :
    x.map f = .ok b ↔ ∃ a, x = .ok a ∧ f a = b := by
  cases x with
  | error e => exact iff_of_false nofun (by rintro ⟨a, ⟨⟩, -⟩)
  | ok a => simp [Except.map]

/-- Steps that all succeed. -/
theorem mapM_eq_pure {m : Type → Type} [Monad m] [LawfulMonad m] {α β : Type} {f : α → m β}
    {g : α → β} {xs : List α} (each : ∀ x ∈ xs, f x = pure (g x)) :
    xs.mapM f = pure (xs.map g) := by
  induction xs with
  | nil => rfl
  | cons x rest ih =>
    obtain ⟨first, others⟩ := List.forall_mem_cons.mp each
    rw [List.mapM_cons, first, pure_bind, ih others, pure_bind, List.map_cons]

section Outcome

variable {α β : Type} {f : α → Except Error β} {xs : List α}

theorem mapM_eq_ok_iff {ys : List β} : xs.mapM f = .ok ys ↔ xs.map f = ys.map .ok := by
  constructor
  · intro converted
    induction xs generalizing ys with
    | nil =>
      cases converted
      rfl
    | cons x rest ih =>
      rw [List.mapM_cons] at converted
      cases first : f x with
      | error e =>
        rw [first] at converted
        cases converted
      | ok y =>
        cases others : rest.mapM f with
        | error e =>
          rw [first, others] at converted
          cases converted
        | ok tail =>
          rw [first, others] at converted
          cases converted
          rw [List.map_cons, List.map_cons, first, ih others]
  · intro each
    have same : xs.mapM f = (xs.map f).mapM id := by rw [List.mapM_map]; rfl
    rw [same, each, List.mapM_map]
    exact (mapM_eq_pure fun _ _ => rfl).trans (congrArg pure (List.map_id ys))

/-- A conversion succeeds item by item. -/
theorem mapM_eq_ok_iff_forall₂ {ys : List β} :
    xs.mapM f = .ok ys ↔ List.Forall₂ (fun x y => f x = .ok y) xs ys := by
  rw [mapM_eq_ok_iff, ← List.forall₂_eq_eq_eq, List.forall₂_map_left_iff,
    List.forall₂_map_right_iff]

theorem exists_mapM_eq_ok_iff : (∃ ys, xs.mapM f = .ok ys) ↔ ∀ x ∈ xs, ∃ y, f x = .ok y := by
  constructor
  · rintro ⟨ys, converted⟩ x mem
    have image := List.mem_map_of_mem (f := f) mem
    rw [mapM_eq_ok_iff.mp converted] at image
    obtain ⟨y, -, same⟩ := List.mem_map.mp image
    exact ⟨y, same.symm⟩
  · intro each
    induction xs with
    | nil => exact ⟨[], rfl⟩
    | cons x rest ih =>
      obtain ⟨⟨y, first⟩, others⟩ := List.forall_mem_cons.mp each
      obtain ⟨ys, tail⟩ := ih others
      exact ⟨y :: ys, by rw [List.mapM_cons, first, tail]; rfl⟩

/-- A list fails with the error of the first step that fails. -/
theorem mapM_eq_error_iff {e : Error} :
    xs.mapM f = .error e ↔
      ∃ before x after, xs = before ++ x :: after ∧ (∀ w ∈ before, ∃ y, f w = .ok y) ∧
        f x = .error e := by
  constructor
  · intro failed
    induction xs with
    | nil => cases failed
    | cons x rest ih =>
      rw [List.mapM_cons] at failed
      cases first : f x with
      | error e' =>
        rw [first] at failed
        cases failed
        exact ⟨[], x, rest, rfl, fun _ mem => absurd mem List.not_mem_nil, first⟩
      | ok y =>
        cases others : rest.mapM f with
        | error e' =>
          rw [first, others] at failed
          cases failed
          obtain ⟨before, w, after, split, each, w_failed⟩ := ih others
          exact ⟨x :: before, w, after, by rw [split]; rfl,
            List.forall_mem_cons.mpr ⟨⟨y, first⟩, each⟩, w_failed⟩
        | ok tail =>
          rw [first, others] at failed
          cases failed
  · rintro ⟨before, x, after, rfl, each, failed⟩
    obtain ⟨ys, converted⟩ := exists_mapM_eq_ok_iff.mpr each
    rw [List.mapM_append, converted, List.mapM_cons, failed]
    rfl

/-- The first step that fails ends them all. -/
theorem mapM_eq_error {g : α → β} {before : List α} (each : ∀ x ∈ before, f x = .ok (g x)) {x : α}
    {e : Error} (failed : f x = .error e) (after : List α) :
    (before ++ x :: after).mapM f = .error e :=
  mapM_eq_error_iff.mpr ⟨before, x, after, rfl, fun w mem => ⟨g w, each w mem⟩, failed⟩

end Outcome

/-! ## Values -/

/-- Whether a value can be bound: an array has to hold what denotes integers. -/
def Value.Bindable : Value → Prop
  | .array items => ∀ item ∈ items, ∃ i, MultiValue.integer item = .ok i
  | _ => True

/-- A value that denotes no integer is reported as one that cannot be decoded. -/
theorem MultiValue.exists_of_integer_eq_error {v : Value} {e : Error}
    (failed : integer v = .error e) : ∃ text fault, e = .decode text fault := by
  cases v with
  | number n =>
    rw [integer] at failed
    split at failed
    · cases failed
    · split at failed
      · split at failed
        · cases failed
        · cases failed
          exact ⟨_, _, rfl⟩
      · cases failed
        exact ⟨_, _, rfl⟩
  | text s =>
    rw [integer] at failed
    split at failed
    · cases failed
    · cases failed
      exact ⟨_, _, rfl⟩
  | _ =>
    cases failed
    exact ⟨_, _, rfl⟩

namespace Param

/-- The parameter of a value that can be bound. -/
def bound (v : Value) : Param := (ofValue v).toOption.getD .null

theorem ofValue_of_bindable {v : Value} (h : v.Bindable) : ofValue v = .ok (bound v) := by
  cases v with
  | array items =>
    have integers : ∀ item ∈ items,
        MultiValue.integer item = pure ((MultiValue.integer item).toOption.getD 0) := by
      intro item mem
      obtain ⟨i, denoted⟩ := h item mem
      rw [denoted]
      rfl
    rw [bound, ofValue, MultiValue.ofValue, mapM_eq_pure integers]
    rfl
  | number n =>
    rw [bound, ofValue]
    cases n.int64? <;> rfl
  | _ => rfl

/-- A value that cannot be bound is an array, and the first of its items that denotes no integer is
reported. -/
theorem ofValue_of_not_bindable {v : Value} (h : ¬ v.Bindable) :
    ∃ text fault, ofValue v = .error (.decode text fault) := by
  cases v with
  | array items =>
    have failing : ∃ e, items.mapM MultiValue.integer = .error e ∧
        ∃ text fault, e = .decode text fault := by
      induction items with
      | nil => exact absurd (fun _ mem => absurd mem List.not_mem_nil) h
      | cons item rest ih =>
        rw [List.mapM_cons]
        cases denoted : MultiValue.integer item with
        | error e => exact ⟨e, rfl, MultiValue.exists_of_integer_eq_error denoted⟩
        | ok i =>
          obtain ⟨e, failed, decode⟩ := ih fun others =>
            h (List.forall_mem_cons.mpr ⟨⟨i, denoted⟩, others⟩)
          rw [failed]
          exact ⟨e, rfl, decode⟩
    obtain ⟨_, failed, text, fault, rfl⟩ := failing
    refine ⟨text, fault, ?_⟩
    rw [ofValue, MultiValue.ofValue, failed]
    rfl
  | _ => exact absurd trivial h

/-- Exactly the values that can be bound have a parameter. -/
theorem toBool_ofValue_iff (v : Value) : (ofValue v).toBool = true ↔ v.Bindable := by
  by_cases bindable : v.Bindable
  · rw [ofValue_of_bindable bindable]
    exact iff_of_true rfl bindable
  · obtain ⟨text, fault, failed⟩ := ofValue_of_not_bindable bindable
    rw [failed]
    exact iff_of_false Bool.false_ne_true bindable

instance : DecidablePred Value.Bindable := fun v => decidable_of_iff _ (toBool_ofValue_iff v)

/-! ## Rows -/

/-- A row of values as a row of parameters. -/
def boundRow (row : Row) : List (String × Param) := row.map fun cell => (cell.1, bound cell.2)

theorem map_ofValue_of_bindable {cell : String × Value} (h : cell.2.Bindable) :
    (ofValue cell.2).map (fun p => (cell.1, p)) = .ok (cell.1, bound cell.2) := by
  rw [ofValue_of_bindable h]
  rfl

theorem ofRow_of_bindable {row : Row} (h : ∀ cell ∈ row, cell.2.Bindable) :
    ofRow row = .ok (boundRow row) :=
  mapM_eq_pure fun cell mem => map_ofValue_of_bindable (h cell mem)

/-- The first cell that cannot be bound fails its row. -/
theorem ofRow_of_first {left : Row} (h : ∀ cell ∈ left, cell.2.Bindable) {name : String}
    {v : Value} {e : Error} (failed : ofValue v = .error e) (right : Row) :
    ofRow (left ++ (name, v) :: right) = .error e := by
  refine mapM_eq_error (fun cell mem => map_ofValue_of_bindable (h cell mem)) ?_ right
  show (ofValue v).map _ = _
  rw [failed]
  rfl

theorem mapM_ofRow_of_bindable {rows : List Row} (h : ∀ row ∈ rows, ∀ cell ∈ row, cell.2.Bindable) :
    rows.mapM ofRow = .ok (rows.map boundRow) :=
  mapM_eq_pure fun row mem => ofRow_of_bindable (h row mem)

/-- The first row that does not convert fails all of them. -/
theorem mapM_ofRow_of_first {before : List Row} (h : ∀ row ∈ before, ∀ cell ∈ row, cell.2.Bindable)
    {row : Row} {e : Error} (failed : ofRow row = .error e) (after : List Row) :
    (before ++ row :: after).mapM ofRow = .error e :=
  mapM_eq_error (fun row mem => ofRow_of_bindable (h row mem)) failed after

end Param

end SearchQL
