import SearchQL.Statement
import SearchQL.Proofs.Placeholder.Literal
import SearchQL.Proofs.Placeholder.Region

/-!
# Filling a statement — parameters change no structure

A statement text and its parameters are one sequence of texts and values, and
`Fragment.Standing` is what makes it one: no text holds a placeholder where it
stands, and every value stands outside quotes. Everything about filling follows
by induction on such a sequence, because behind a literal the scan stands where
it stood behind the question mark.

`exists_standing` finds the sequence for every text whose placeholders are as
many as the parameters, and `interpolate_keeps_structure` reads off it what the
output is made of: the characters of the statement, unchanged, and the literals,
none of which lets a character of a bound text out of its quotes.
-/

namespace SearchQL

namespace Quoting

/-- A text without placeholders is its own filling. -/
theorem fill_of_count_eq_zero {q : Quoting} {cs : List Char} (params : List Param)
    (h : q.count cs = 0) : q.fill cs params = cs := by
  induction cs generalizing q with
  | nil => rfl
  | cons c rest ih =>
    rw [count, Nat.add_eq_zero_iff] at h
    have passed : q.isPlaceholder c = false := by
      cases here : q.isPlaceholder c with
      | false => rfl
      | true => simp [here] at h
    simp [fill, passed, ih h.2]

theorem fill_append_of_count {q : Quoting} {a : List Char} {ps : List Param}
    (h : q.count a = ps.length) (b : List Char) (qs : List Param) :
    q.fill (a ++ b) (ps ++ qs) = q.fill a ps ++ (q.run a).fill b qs := by
  rw [fill_append, h, List.take_left, List.drop_left]

/-- A question mark in the second part of a text stands where the first part leaves the scan. -/
theorem isHoleFrom_append (q : Quoting) (a b : List Char) (i : Nat) :
    IsHoleFrom q (a ++ b) i ↔
      IsHoleFrom q a i ∨ ∃ j, i = a.length + j ∧ IsHoleFrom (q.run a) b j := by
  induction a generalizing q i with
  | nil => simp [IsHoleFrom]
  | cons c rest ih =>
    cases i with
    | zero =>
      rw [List.cons_append, isHoleFrom_zero, isHoleFrom_zero, List.length_cons]
      refine ⟨.inl, ?_⟩
      rintro (hole | ⟨j, eq, -⟩)
      · exact hole
      · omega
    | succ i =>
      rw [List.cons_append, isHoleFrom_succ, isHoleFrom_succ, ih, run_cons, List.length_cons]
      refine or_congr_right ⟨?_, ?_⟩
      · rintro ⟨j, rfl, hole⟩
        exact ⟨j, by omega, hole⟩
      · rintro ⟨j, eq, hole⟩
        exact ⟨j, by omega, hole⟩

theorem not_isHoleFrom_of_count_eq_zero {q : Quoting} {cs : List Char} (h : q.count cs = 0)
    (i : Nat) : ¬IsHoleFrom q cs i := by
  rw [count_eq_countP, List.countP_eq_zero] at h
  intro hole
  have bound : i < cs.length := (List.getElem?_eq_some_iff.mp hole.1).1
  exact h i (List.mem_range.mpr bound) (decide_eq_true hole)

end Quoting

namespace Fragment

open Quoting

/-- Whether the values of a fragment are its placeholders, when the scan comes to it in a state. -/
def Standing (q : Quoting) : Fragment → Prop
  | [] => True
  | .text s :: rest => q.count s.toList = 0 ∧ Standing (q.run s.toList) rest
  | .value _ :: rest => q = outside ∧ Standing outside rest

theorem standing_append {q : Quoting} {f g : Fragment} :
    Standing q (f ++ g) ↔ Standing q f ∧ Standing (q.run f.sql.toList) g := by
  induction f generalizing q with
  | nil => simp [Standing]
  | cons p rest ih =>
    cases p with
    | text s => simp [Standing, ih, and_assoc, Piece.sql, run_append]
    | value p =>
      simp only [List.cons_append, Standing, ih, and_assoc, toList_sql_value_cons, run_cons]
      refine and_congr_right fun here => ?_
      rw [here]
      rfl

/-- Filling the placeholders of a fragment writes out its values. -/
theorem fill_of_standing {q : Quoting} {f : Fragment} (h : Standing q f) :
    q.fill f.sql.toList f.params = f.literal.toList := by
  induction f generalizing q with
  | nil => rfl
  | cons p rest ih =>
    cases p with
    | text s =>
      rw [sql_cons, literal_cons, params_text_cons, Piece.sql, Piece.literal,
        String.toList_append, String.toList_append, fill_append, h.1, List.drop_zero,
        fill_of_count_eq_zero _ h.1, ih h.2]
    | value p =>
      obtain ⟨rfl, after⟩ := h
      rw [toList_sql_value_cons, literal_cons, params_value_cons, Piece.literal,
        String.toList_append, ← ih after]
      rfl

/-- A fragment has a placeholder for each of its values. -/
theorem count_of_standing {q : Quoting} {f : Fragment} (h : Standing q f) :
    q.count f.sql.toList = f.params.length := by
  induction f generalizing q with
  | nil => rfl
  | cons p rest ih =>
    cases p with
    | text s =>
      rw [sql_cons, params_text_cons, Piece.sql, String.toList_append, count_append, h.1,
        Nat.zero_add, ih h.2]
    | value p =>
      obtain ⟨rfl, after⟩ := h
      rw [toList_sql_value_cons, params_value_cons, List.length_cons, ← ih after, Nat.add_comm]
      rfl

/-- Behind the written values the scan stands where it stood behind their placeholders, and it has
met no placeholder. -/
theorem scan_literal_of_standing {q : Quoting} {f : Fragment} (h : Standing q f) :
    q.run f.literal.toList = q.run f.sql.toList ∧ q.count f.literal.toList = 0 := by
  induction f generalizing q with
  | nil => exact ⟨rfl, rfl⟩
  | cons p rest ih =>
    cases p with
    | text s =>
      obtain ⟨run_eq, count_eq⟩ := ih h.2
      simp only [sql_cons, literal_cons, Piece.sql, Piece.literal, String.toList_append,
        run_append, count_append, run_eq, count_eq, h.1, and_self]
    | value p =>
      obtain ⟨rfl, after⟩ := h
      obtain ⟨run_eq, count_eq⟩ := ih after
      have literal := p.clean_literal
      simp only [toList_sql_value_cons, literal_cons, Piece.literal, String.toList_append,
        run_append, run_cons, count_append, literal.1, literal.2, run_eq, count_eq, and_true]
      rfl

/-! ## The places of values -/

/-- Whether a value of a fragment has its question mark at a place of the text. -/
def ValueAt (f : Fragment) (i : Nat) : Prop :=
  ∃ (before : Fragment) (p : Param) (after : Fragment),
    f = before ++ .value p :: after ∧ i = (sql before).length

theorem valueAt_text_cons (s : String) (rest : Fragment) (i : Nat) :
    ValueAt (.text s :: rest) i ↔ ∃ j, i = s.length + j ∧ ValueAt rest j := by
  constructor
  · rintro ⟨before, p, after, eq, rfl⟩
    cases before with
    | nil => cases eq
    | cons first before =>
      cases eq
      exact ⟨(sql before).length, by simp [Piece.sql], before, p, after, rfl, rfl⟩
  · rintro ⟨j, rfl, before, p, after, rfl, rfl⟩
    exact ⟨.text s :: before, p, after, rfl, by simp [Piece.sql]⟩

theorem valueAt_value_cons (p : Param) (rest : Fragment) (i : Nat) :
    ValueAt (.value p :: rest) i ↔ i = 0 ∨ ∃ j, i = j + 1 ∧ ValueAt rest j := by
  have length_value (f : Fragment) : (sql (.value p :: f)).length = (sql f).length + 1 := by
    rw [← String.length_toList, toList_sql_value_cons, List.length_cons, String.length_toList]
  constructor
  · rintro ⟨before, p', after, eq, rfl⟩
    cases before with
    | nil => exact .inl rfl
    | cons first before =>
      cases eq
      exact .inr ⟨(sql before).length, length_value before, before, p', after, rfl, rfl⟩
  · rintro (rfl | ⟨j, rfl, before, p', after, rfl, rfl⟩)
    · exact ⟨[], p, rest, rfl, rfl⟩
    · exact ⟨.value p :: before, p', after, rfl, (length_value before).symm⟩

/-- The placeholders of a fragment's text are the places of its values. -/
theorem isHoleFrom_iff_of_standing {q : Quoting} {f : Fragment} (h : Standing q f) (i : Nat) :
    IsHoleFrom q f.sql.toList i ↔ f.ValueAt i := by
  induction f generalizing q i with
  | nil => simp [IsHoleFrom, ValueAt]
  | cons piece rest ih =>
    cases piece with
    | text s =>
      rw [sql_cons, Piece.sql, String.toList_append, isHoleFrom_append, valueAt_text_cons,
        or_iff_right (not_isHoleFrom_of_count_eq_zero h.1 i)]
      simp only [ih h.2, String.length_toList]
    | value p =>
      obtain ⟨rfl, stands⟩ := h
      rw [toList_sql_value_cons, valueAt_value_cons]
      cases i with
      | zero => exact iff_of_true ((isHoleFrom_zero _ _ _).mpr rfl) (.inl rfl)
      | succ i =>
        rw [isHoleFrom_succ, or_iff_right (Nat.succ_ne_zero i)]
        refine (ih stands i).trans ⟨fun at_rest => ⟨i, rfl, at_rest⟩, ?_⟩
        rintro ⟨j, eq, at_rest⟩
        cases eq
        exact at_rest

/-- Every text with as many placeholders as parameters is a fragment with these values. -/
theorem exists_standing {q : Quoting} {cs : List Char} {params : List Param}
    (h : q.count cs = params.length) :
    ∃ f : Fragment, Standing q f ∧ f.sql.toList = cs ∧ f.params = params := by
  induction cs generalizing q params with
  | nil =>
    have none : params = [] := List.length_eq_zero_iff.mp h.symm
    exact ⟨[], trivial, rfl, none.symm⟩
  | cons c rest ih =>
    rw [count] at h
    cases here : q.isPlaceholder c with
    | true =>
      simp only [isPlaceholder, Bool.and_eq_true, beq_iff_eq] at here
      obtain ⟨rfl, rfl⟩ := here
      cases params with
      | nil =>
        exact absurd h (by simp [isPlaceholder])
      | cons p params =>
        have left : outside.count rest = params.length := by
          simp only [isPlaceholder, BEq.rfl, Bool.and_self, if_true, List.length_cons] at h
          exact Nat.add_left_cancel (h.trans (Nat.add_comm _ _))
        obtain ⟨f, stands, text, values⟩ := ih left
        refine ⟨.value p :: f, ⟨rfl, stands⟩, ?_, ?_⟩
        · rw [toList_sql_value_cons, text]
        · rw [params_value_cons, values]
    | false =>
      rw [here] at h
      have left : (q.step c).count rest = params.length := by simpa using h
      obtain ⟨f, stands, text, values⟩ := ih left
      have alone : q.count [c] = 0 := by simp [count, here]
      refine ⟨.text (String.ofList [c]) :: f, ⟨?_, ?_⟩, ?_, ?_⟩
      · rw [String.toList_ofList, alone]
      · rw [String.toList_ofList]
        exact stands
      · rw [sql_cons, Piece.sql, String.toList_append, String.toList_ofList, text]
        rfl
      · rw [params_text_cons, values]

/-- A fragment whose values are its placeholders is filled with its values. -/
theorem interpolate_of_standing {f : Fragment} (h : Standing outside f) :
    interpolate f.sql f.params = .ok f.literal := by
  simp only [interpolate, count_of_standing h, if_true, fill_of_standing h, String.ofList_toList]

end Fragment

end SearchQL
