import SearchQL.Placeholder

/-!
# Quoted regions — what the scan of a statement decides

The scan of a statement carries one of three states from character to character.
This module says what they decide, without a scan: a text is *balanced* when it
is made of characters that open no region and of whole regions, a region being a
mark, characters that are neither that mark nor a backslash or stand behind a
backslash, and the same mark. `run_eq_outside_iff` says that the scan ends
outside quotes exactly behind a balanced text.

With it a placeholder is a question mark behind a balanced text, and
`count_eq_length` says that the count of the scan is the number of these.
-/

namespace SearchQL.Quoting

/-- What stands between the two marks of a quoted region. -/
inductive Region (mark : Char) : List Char → Prop
  | nil : Region mark []
  | plain {c : Char} {cs : List Char} :
      c ≠ '\\' → c ≠ mark → Region mark cs → Region mark (c :: cs)
  | guarded {c : Char} {cs : List Char} : Region mark cs → Region mark ('\\' :: c :: cs)

/-- A text that leaves no quoted region open. -/
inductive Balanced : List Char → Prop
  | nil : Balanced []
  | plain {c : Char} {cs : List Char} : isMark c = false → Balanced cs → Balanced (c :: cs)
  | region {mark : Char} {body cs : List Char} :
      isMark mark = true → Region mark body → Balanced cs → Balanced (mark :: body ++ mark :: cs)

theorem ne_backslash_of_isMark {mark : Char} (h : isMark mark = true) : mark ≠ '\\' := by
  rintro rfl
  revert h
  decide

/-- The scan stays in a region up to the region's mark. -/
theorem run_inside_of_region {mark : Char} {body : List Char} (h : Region mark body) :
    (inside mark).run body = inside mark := by
  induction h with
  | nil => rfl
  | plain not_backslash not_mark _ ih =>
    rw [run_cons, step, if_neg not_backslash, if_neg not_mark]
    exact ih
  | guarded _ ih =>
    rw [run_cons, step, if_pos rfl]
    exact ih

theorem run_outside_of_balanced {cs : List Char} (h : Balanced cs) : outside.run cs = outside := by
  induction h with
  | nil => rfl
  | plain not_mark _ ih =>
    rw [run_cons, step, not_mark]
    exact ih
  | region is_mark body _ ih =>
    rw [List.cons_append, run_cons, step, is_mark, if_pos rfl, run_append,
      run_inside_of_region body, run_cons, step, if_neg (ne_backslash_of_isMark is_mark),
      if_pos rfl]
    exact ih

/-- A scan that leaves a region has read the rest of the region and its mark. -/
theorem region_of_run {mark : Char} :
    ∀ cs : List Char, (inside mark).run cs = outside →
      ∃ body rest, cs = body ++ mark :: rest ∧ Region mark body ∧ outside.run rest = outside
  | [], h => by cases h
  | [c], h => by
    by_cases backslash : c = '\\'
    · rw [run_cons, step, if_pos backslash] at h
      cases h
    · by_cases closing : c = mark
      · exact ⟨[], [], by rw [closing, List.nil_append], .nil, rfl⟩
      · rw [run_cons, step, if_neg backslash, if_neg closing] at h
        cases h
  | c :: d :: cs, h => by
    by_cases backslash : c = '\\'
    · rw [run_cons, step, if_pos backslash, run_cons, step] at h
      obtain ⟨body, rest, rfl, region, after⟩ := region_of_run cs h
      exact ⟨'\\' :: d :: body, rest, by rw [backslash]; rfl, .guarded region, after⟩
    · by_cases closing : c = mark
      · rw [run_cons, step, if_neg backslash, if_pos closing] at h
        exact ⟨[], d :: cs, by rw [closing, List.nil_append], .nil, h⟩
      · rw [run_cons, step, if_neg backslash, if_neg closing] at h
        obtain ⟨body, rest, eq, region, after⟩ := region_of_run (d :: cs) h
        exact ⟨c :: body, rest, by rw [eq]; rfl, .plain backslash closing region, after⟩

theorem balanced_of_run (cs : List Char) (h : outside.run cs = outside) : Balanced cs :=
  match cs with
  | [] => .nil
  | c :: rest => by
    cases is_mark : isMark c with
    | false =>
      rw [run_cons, step, is_mark] at h
      exact .plain is_mark (balanced_of_run rest h)
    | true =>
      rw [run_cons, step, is_mark, if_pos rfl] at h
      obtain ⟨body, after, split, region, out⟩ := region_of_run rest h
      have shorter : after.length < rest.length := by
        rw [split, List.length_append, List.length_cons]
        omega
      rw [split]
      exact .region is_mark region (balanced_of_run after out)
termination_by cs.length
decreasing_by
  · exact Nat.lt_succ_self _
  · exact Nat.lt_succ_of_lt shorter

/-- The scan ends outside quotes exactly behind a text that leaves no region open. -/
theorem run_eq_outside_iff (cs : List Char) : outside.run cs = outside ↔ Balanced cs :=
  ⟨balanced_of_run cs, run_outside_of_balanced⟩

instance (cs : List Char) : Decidable (Balanced cs) :=
  decidable_of_iff _ (run_eq_outside_iff cs)

/-! ## Placeholders by their place -/

/-- A question mark with a balanced text before it. -/
def IsHole (cs : List Char) (i : Nat) : Prop := cs[i]? = some '?' ∧ Balanced (cs.take i)

instance (cs : List Char) (i : Nat) : Decidable (IsHole cs i) := inferInstanceAs (Decidable (_ ∧ _))

/-- The places of the placeholders of a statement. -/
def holes (cs : List Char) : List Nat := (List.range cs.length).filter (IsHole cs ·)

/-- The same, read from any state of the scan. -/
def IsHoleFrom (q : Quoting) (cs : List Char) (i : Nat) : Prop :=
  cs[i]? = some '?' ∧ q.run (cs.take i) = outside

instance (q : Quoting) (cs : List Char) (i : Nat) : Decidable (IsHoleFrom q cs i) :=
  inferInstanceAs (Decidable (_ ∧ _))

theorem isHole_iff (cs : List Char) (i : Nat) : IsHole cs i ↔ IsHoleFrom outside cs i := by
  rw [IsHole, IsHoleFrom, run_eq_outside_iff]

theorem isHoleFrom_zero (q : Quoting) (c : Char) (cs : List Char) :
    IsHoleFrom q (c :: cs) 0 ↔ q.isPlaceholder c = true := by
  simp [IsHoleFrom, isPlaceholder, and_comm]

theorem isHoleFrom_succ (q : Quoting) (c : Char) (cs : List Char) (i : Nat) :
    IsHoleFrom q (c :: cs) (i + 1) ↔ IsHoleFrom (q.step c) cs i := by
  simp [IsHoleFrom]

theorem count_eq_countP (q : Quoting) (cs : List Char) :
    q.count cs = (List.range cs.length).countP (IsHoleFrom q cs ·) := by
  induction cs generalizing q with
  | nil => rfl
  | cons c rest ih =>
    rw [List.length_cons, List.range_succ_eq_map, List.countP_cons, List.countP_map, count, ih]
    simp only [Function.comp_def, Nat.succ_eq_add_one, isHoleFrom_succ, isHoleFrom_zero,
      decide_eq_true_eq, Nat.add_comm]

/-- The scan counts the places of the placeholders. -/
theorem count_eq_length (cs : List Char) : outside.count cs = (holes cs).length := by
  rw [count_eq_countP, List.countP_eq_length_filter, holes]
  simp only [isHole_iff]

end SearchQL.Quoting
