import Mathlib.Data.List.Basic

/-!
# Joined text — parts with a separator between each two

Names, numbers and words are written in one way: the parts, and one character
between each two of them. Splitting the text at that character gives the parts
back if none of them holds it. What is here is what a writer and a reader of such
text need besides: what holds of the characters of a joined text, what happens
to it when each character is replaced, and where one of the parts stands.
-/

namespace SearchQL

variable {separator : Char}

/-- What holds of the characters of every part and of the separator holds of the joined text. -/
theorem forall_mem_intercalate {P : Char → Prop} (between : P separator)
    {parts : List (List Char)} (within : ∀ part ∈ parts, ∀ c ∈ part, P c) :
    ∀ c ∈ [separator].intercalate parts, P c := by
  induction parts with
  | nil =>
    intro c mem
    cases mem
  | cons part parts ih =>
    have head := within part List.mem_cons_self
    have tail := ih fun p mem => within p (List.mem_cons_of_mem part mem)
    cases parts with
    | nil => rwa [List.intercalate_singleton]
    | cons next parts =>
      intro c mem
      rw [List.intercalate_cons_cons] at mem
      rcases List.mem_append.mp mem with mem | mem
      · rcases List.mem_append.mp mem with mem | mem
        · exact head c mem
        · rw [List.mem_singleton.mp mem]
          exact between
      · exact tail c mem

/-- Replacing the characters of a joined text is replacing those of its parts, if the separator
stays. -/
theorem flatMap_intercalate {f : Char → List Char} (kept : f separator = [separator])
    (parts : List (List Char)) :
    ([separator].intercalate parts).flatMap f =
      [separator].intercalate (parts.map (·.flatMap f)) := by
  induction parts with
  | nil => rfl
  | cons part parts ih =>
    cases parts with
    | nil => simp
    | cons next parts =>
      rw [List.intercalate_cons_cons, List.flatMap_append, List.flatMap_append, ih]
      simp [List.intercalate_cons_cons, kept]

/-- The separators that stand before a part are one for each part before it. -/
theorem intercalate_append_cons (before : List (List Char)) (part : List Char)
    (after : List (List Char)) :
    [separator].intercalate (before ++ part :: after) =
      before.flatMap (· ++ [separator]) ++ (part ++ after.flatMap (separator :: ·)) := by
  induction before with
  | nil =>
    rw [List.nil_append, List.flatMap_nil, List.nil_append]
    induction after generalizing part with
    | nil => simp
    | cons next after ih => simp [List.intercalate_cons_cons, ih]
  | cons first before ih =>
    have not_nil : before ++ part :: after ≠ [] := by simp
    rw [List.cons_append, List.intercalate_cons_of_ne_nil not_nil, ih, List.flatMap_cons,
      List.append_assoc _ (before.flatMap _)]

/-- The characters of the parts are characters of the text. -/
theorem mem_of_mem_splitOn {cs part : List Char} (h : part ∈ cs.splitOn separator) {c : Char}
    (mem : c ∈ part) : c ∈ cs := by
  obtain ⟨before, after, split⟩ := List.append_of_mem h
  have whole : [separator].intercalate (cs.splitOn separator) = cs :=
    List.intercalate_splitOn separator
  rw [← whole, split, intercalate_append_cons]
  exact List.mem_append_right _ (List.mem_append_left _ mem)

/-- No part of a split text holds the character that it was split at. -/
theorem not_mem_of_mem_splitOn {cs part : List Char} (h : part ∈ cs.splitOn separator) :
    separator ∉ part := by
  induction cs generalizing part with
  | nil =>
    rw [List.splitOn_nil, List.mem_singleton] at h
    simp [h]
  | cons c cs ih =>
    rw [List.splitOn_cons_eq_if_modifyHead] at h
    by_cases eq : c = separator
    · rcases List.mem_cons.mp (by simpa [eq] using h) with rfl | rest
      · exact List.not_mem_nil
      · exact ih rest
    · obtain ⟨first, rest, split⟩ := List.exists_cons_of_ne_nil (List.splitOn_ne_nil separator cs)
      rw [if_neg (by simpa using eq), split, List.modifyHead_cons] at h
      rcases List.mem_cons.mp h with rfl | mem
      · have absent := ih (split ▸ List.mem_cons_self)
        simp [absent, Ne.symm eq]
      · exact ih (split ▸ List.mem_cons_of_mem first mem)

/-- A text is split into the parts that it is joined of, if none of them holds the separator. -/
theorem splitOn_eq_iff {cs : List Char} {parts : List (List Char)} (some_part : parts ≠ []) :
    cs.splitOn separator = parts ↔
      [separator].intercalate parts = cs ∧ ∀ part ∈ parts, separator ∉ part := by
  constructor
  · rintro rfl
    exact ⟨List.intercalate_splitOn separator, fun part => not_mem_of_mem_splitOn⟩
  · rintro ⟨rfl, apart⟩
    exact List.splitOn_intercalate separator apart some_part

end SearchQL
