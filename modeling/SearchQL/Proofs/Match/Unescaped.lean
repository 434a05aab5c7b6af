import SearchQL.Proofs.Match.Words
import SearchQL.Proofs.Text.Kept

/-!
# Text without need of escaping

Relaxed escaping is meant for text in which something is wrong: an operator that
its writer did not mean, a quote that stands alone, dashes in a row, a dash inside
a word. `NeedsNoEscape` is the text with none of these, said without the stages
that look for them, and `relax_of_needsNoEscape` says that such text is only put
in lower case. The operators of the writer, the phrases and all blanks stay.

Each stage is the identity for a reason of its own, so each has a lemma about
itself and one condition. Collapsing is the one that looks ahead: what it needs to
know of a dash is what stands behind the blanks after it (`dashesApart_cons`).
-/

namespace SearchQL.Match

/-! ## What there is to escape -/

/-- No dash is followed by another one with nothing but blanks between them. -/
def DashesApart (cs : List Char) : Prop :=
  ∀ before blanks after, cs = before ++ '-' :: (blanks ++ '-' :: after) →
    ¬ ∀ c ∈ blanks, Text.isBlank c = true

/-- Text in which there is nothing to escape: a dash stands nowhere but at the beginning of a word. -/
structure NeedsNoEscape (cs : List Char) : Prop where
  unguarded : ∀ c ∈ guardedOperators, c ∉ cs
  paired : cs.count '"' % 2 = 0
  apart : DashesApart cs
  first : ∀ w ∈ cs.splitOn ' ', '-' ∉ w.tail

/-! ## Stage by stage -/

theorem guardOperators_of_unguarded {cs : List Char} (unguarded : ∀ c ∈ guardedOperators, c ∉ cs) :
    guardOperators cs = cs := by
  induction cs with
  | nil => rfl
  | cons c cs ih =>
    have here : c ∉ guardedOperators := fun mem => unguarded c mem List.mem_cons_self
    have later : ∀ d ∈ guardedOperators, d ∉ cs := fun d mem within =>
      unguarded d mem (List.mem_cons_of_mem c within)
    rw [guardOperators_cons, guardChar_of_not_mem here, ih later, List.singleton_append]

theorem closeQuotes_of_paired {cs : List Char} (paired : cs.count '"' % 2 = 0) :
    closeQuotes cs = cs :=
  if_neg (by omega)

theorem dashesApart_cons {c : Char} {cs : List Char} :
    DashesApart (c :: cs) ↔
      (c = '-' → (cs.dropWhile Text.isBlank).head? ≠ some '-') ∧ DashesApart cs := by
  constructor
  · intro apart
    refine ⟨?_, fun before blanks after eq => ?_⟩
    · rintro rfl found
      obtain ⟨after, eq⟩ := List.head?_eq_some_iff.mp found
      refine apart [] (cs.takeWhile Text.isBlank) after ?_ fun c mem => List.mem_takeWhile_imp mem
      rw [← eq, List.takeWhile_append_dropWhile, List.nil_append]
    · exact apart (c :: before) blanks after (by rw [eq, List.cons_append])
  · rintro ⟨behind, apart⟩ before blanks after eq all_blank
    cases before with
    | nil =>
      obtain ⟨rfl, rfl⟩ := List.cons.inj eq
      apply behind rfl
      rw [List.dropWhile_append_of_pos all_blank]
      rfl
    | cons b before => exact apart before blanks after (List.cons.inj eq).2 all_blank

theorem dashesApart_nil : DashesApart [] := by
  intro before blanks after eq
  simp at eq

instance decidableDashesApart : DecidablePred DashesApart
  | [] => isTrue dashesApart_nil
  | _ :: cs =>
    have := decidableDashesApart cs
    decidable_of_iff _ dashesApart_cons.symm

theorem collapseDashes_of_apart {cs : List Char} (apart : DashesApart cs) :
    collapseDashes cs = cs := by
  induction cs with
  | nil => rfl
  | cons c cs ih =>
    obtain ⟨behind, rest⟩ := dashesApart_cons.mp apart
    rw [collapseDashes_cons, ih rest]
    by_cases dash : c = '-'
    · rw [dash, pushCollapsed_dash_eq, if_neg (behind dash)]
    · exact pushCollapsed_of_ne dash cs

theorem dash_mem_tail_of_hasInnerDash {w : List Char} (inner : HasInnerDash w) : '-' ∈ w.tail := by
  obtain ⟨before, c, after, rfl, -⟩ := inner
  cases before with
  | nil => exact List.mem_cons_self
  | cons b before => simp

theorem relaxWord_of_not_hasInnerDash {w : List Char} (no_inner : ¬ HasInnerDash w) :
    relaxWord w = guardOperators w := by
  have guarded := (guardedWord_eq_iff w).mpr no_inner
  rw [relaxWord_eq, if_pos guarded, guarded]

/-! ## The stages together -/

/-- The stages before lower case change nothing. -/
theorem relaxChars_of_needsNoEscape {cs : List Char} (plain : NeedsNoEscape cs) :
    relaxChars cs = Text.lowercase cs := by
  have cut : words cs = cs.splitOn ' ' := by
    rw [words, closeQuotes_of_paired plain.paired, collapseDashes_of_apart plain.apart]
  have whole : [' '].intercalate (cs.splitOn ' ') = cs := List.intercalate_splitOn ' '
  have each : ∀ w ∈ cs.splitOn ' ', relaxWord w = w := by
    intro w mem
    have no_inner : ¬ HasInnerDash w := fun inner =>
      plain.first w mem (dash_mem_tail_of_hasInnerDash inner)
    rw [relaxWord_of_not_hasInnerDash no_inner]
    exact guardOperators_of_unguarded fun c operator within =>
      plain.unguarded c operator (mem_of_mem_splitOn mem within)
  rw [relaxChars_eq, cut, List.map_congr_left each, List.map_id', whole]

/-- **Text without need of escaping is only put in lower case.** Its signs, such as the operators of
the writer, leading dashes and the quotes of phrases, and all of its blanks stay. -/
theorem relax_of_needsNoEscape {text : String} (plain : NeedsNoEscape text.toList) :
    relax text = String.ofList (Text.lowercase text.toList) ∧
      (relax text).toList.filter (fun c => Text.isSign c || Text.isBlank c) =
        text.toList.filter fun c => Text.isSign c || Text.isBlank c := by
  have lowered : relax text = String.ofList (Text.lowercase text.toList) := by
    rw [relax, relaxChars_of_needsNoEscape plain]
  refine ⟨lowered, ?_⟩
  rw [lowered, String.toList_ofList]
  exact (Text.isKept_isSign.or Text.isKept_isBlank).filter_lowercase text.toList

/-- A text with two spaces in a phrase, a tab behind an operator and a space at its end. -/
theorem relax_of_needsNoEscape_operators :
    NeedsNoEscape "-Foo |\t\"Bar  -BAZ\" qu* ".toList ∧
      relax "-Foo |\t\"Bar  -BAZ\" qu* " = "-foo |\t\"bar  -baz\" qu* " := by
  have plain : NeedsNoEscape "-Foo |\t\"Bar  -BAZ\" qu* ".toList :=
    ⟨by simp [guardedOperators], by decide +kernel, by decide +kernel, by decide +kernel⟩
  exact ⟨plain, (relax_of_needsNoEscape plain).1.trans (by decide +kernel)⟩

end SearchQL.Match
