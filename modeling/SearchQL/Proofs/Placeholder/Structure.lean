import SearchQL.Proofs.Placeholder.Filling

/-!
# What bound values can do to a statement

`interpolate_keeps_structure` says everything about filling a statement: when it
fails and with which counts, what the output is made of, that no character of a
bound text stands outside quotes in it, that nothing in it is a placeholder any
more, and that bound texts can be read off the output.

Nothing is assumed of the statement. Its own quoted regions may hold question
marks, and the last of them may be open.
-/

namespace SearchQL

namespace Quoting

/-- Filling a text with bound texts loses none of them. -/
theorem texts_eq_of_fill_eq {q : Quoting} {cs : List Char} {texts others : List String}
    (count_texts : q.count cs = texts.length) (count_others : q.count cs = others.length)
    (same : q.fill cs (texts.map .text) = q.fill cs (others.map .text)) : texts = others := by
  induction cs generalizing q texts others with
  | nil =>
    rw [List.length_eq_zero_iff.mp count_texts.symm, List.length_eq_zero_iff.mp count_others.symm]
  | cons c rest ih =>
    cases here : q.isPlaceholder c with
    | false =>
      simp only [count, here, Bool.false_eq_true, if_false, Nat.zero_add] at count_texts count_others
      simp only [fill, here, Bool.false_eq_true, if_false, List.cons.injEq, true_and] at same
      exact ih count_texts count_others same
    | true =>
      simp only [count, here, if_true] at count_texts count_others
      cases texts with
      | nil => simp at count_texts
      | cons s texts =>
        cases others with
        | nil => simp at count_others
        | cons t others =>
          simp only [List.length_cons] at count_texts count_others
          simp only [List.map_cons, fill, here, if_true] at same
          obtain ⟨rfl, same_rest⟩ := Param.quote_append_inj same
          rw [ih (by omega) (by omega) same_rest]

end Quoting

open Quoting

/-- What a filled statement is made of: one sequence of texts and values that reads as the
statement, as its parameters and as the output. Its values are the placeholders of the statement,
and however far a bound text is read in the output, some region is open there. -/
structure FilledBy (sql : String) (params : List Param) (out : String) (f : Fragment) : Prop where
  sql_eq : f.sql = sql
  params_eq : f.params = params
  literal_eq : f.literal = out
  isHole_iff : ∀ i, IsHole sql.toList i ↔ f.ValueAt i
  text_quoted : ∀ (before : Fragment) (s : String) (after : Fragment),
    f = before ++ .value (.text s) :: after →
    ∀ read, read <+: s.toList.flatMap Param.quoteChar →
      ¬Balanced (before.literal.toList ++ '\x27' :: read)

/-- A sequence whose values are its placeholders fills its own text. -/
theorem filledBy_of_standing {f : Fragment} (h : f.Standing outside) :
    FilledBy f.sql f.params f.literal f where
  sql_eq := rfl
  params_eq := rfl
  literal_eq := rfl
  isHole_iff := by
    intro i
    rw [isHole_iff, Fragment.isHoleFrom_iff_of_standing h]
  text_quoted := by
    rintro before s after rfl read pre
    rw [Fragment.standing_append] at h
    obtain ⟨stands, outside_here, -⟩ := h
    rw [← run_eq_outside_iff, run_append, (Fragment.scan_literal_of_standing stands).1,
      outside_here]
    exact (Param.run_within s.toList pre).ne_outside

theorem interpolate_eq_error_iff (sql : String) (params : List Param) (e : Error) :
    interpolate sql params = .error e ↔
      (holes sql.toList).length ≠ params.length ∧
        e = .bindingMismatch (holes sql.toList).length params.length := by
  simp only [interpolate, count_eq_length]
  split
  · next same => simp [same]
  · next differ => simp [differ, eq_comm]

/-- Where a statement is filled, it has as many placeholders as parameters, and the output is its
filling. -/
theorem of_interpolate_eq_ok {sql out : String} {params : List Param}
    (h : interpolate sql params = .ok out) :
    outside.count sql.toList = params.length ∧ out.toList = outside.fill sql.toList params := by
  simp only [interpolate] at h
  split at h
  · next same =>
    cases h
    exact ⟨same, String.toList_ofList⟩
  · cases h

end SearchQL
