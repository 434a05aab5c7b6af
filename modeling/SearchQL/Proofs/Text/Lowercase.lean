import SearchQL.Text.Lowercase

/-!
# Lower case and signs

A sign is a printable ASCII character that is no letter. Lower-casing a text
neither makes nor removes one: a sign is its own lower-case form, and no other
character, whatever its script, has a sign in its lower-case form. Among the
characters beyond ASCII only the Kelvin sign and the capital I with a dot above
have an ASCII character there, and both times it is a letter.
-/

namespace SearchQL.Text

/-- Whether a character is printable, ASCII and no letter. -/
def isSign (c : Char) : Bool := 0x20 ≤ c.toNat && c.toNat < 0x80 && !c.isAlpha

theorem toNat_lt_of_isSign {c : Char} (h : isSign c = true) : c.toNat < 0x80 := by
  rw [isSign, Bool.and_eq_true, Bool.and_eq_true, decide_eq_true_eq, decide_eq_true_eq] at h
  exact h.1.2

/-- The letters A to Z become letters, and the rest of ASCII stands for itself. -/
theorem toLower_ofNat : ∀ code < 0x80,
    isSign (Char.ofNat code).toLower = isSign (Char.ofNat code) ∧
      (isSign (Char.ofNat code) = true → (Char.ofNat code).toLower = Char.ofNat code) := by
  decide +kernel

theorem lowerChar_of_isSign {c : Char} (h : isSign c = true) : lowerChar c = [c] := by
  have ascii := toNat_lt_of_isSign h
  obtain ⟨-, fixed⟩ := toLower_ofNat c.toNat ascii
  rw [Char.ofNat_toNat] at fixed
  rw [lowerChar, if_pos ascii, fixed h]

/-! ## No new signs -/

/-- A number that no character has names the null character. -/
theorem toNat_ofNat_cases (code : Nat) :
    (Char.ofNat code).toNat = code ∨ Char.ofNat code = '\x00' := by
  by_cases valid : code.isValidChar
  · left
    rw [Char.ofNat, dif_pos valid]
    rfl
  · right
    rw [Char.ofNat, dif_neg valid]
    rfl

theorem not_isSign_ofNat {code : Nat} (h : 0x80 ≤ code) : isSign (Char.ofNat code) = false := by
  obtain same | null := toNat_ofNat_cases code
  · have large : ¬ (Char.ofNat code).toNat < 0x80 := by omega
    rw [isSign, decide_eq_false large, Bool.and_false, Bool.false_and]
  · rw [null]
    decide

theorem image_of_mem_caseRuns :
    ∀ run ∈ caseRuns, 0x80 ≤ run.image ∨ run.first = run.last ∧ run.image = 0x6B := by
  decide +kernel

theorem not_isSign_of_lower? {code image : Nat}
    (h : caseRuns.findSome? (·.lower? code) = some image) : isSign (Char.ofNat image) = false := by
  obtain ⟨run, mem, found⟩ := List.exists_of_findSome?_eq_some h
  rw [CaseRun.lower?] at found
  split at found
  · rename_i held
    rw [Bool.and_eq_true, Bool.and_eq_true, decide_eq_true_eq, decide_eq_true_eq] at held
    have image_eq : run.image + (code - run.first) = image := Option.some.inj found
    rcases image_of_mem_caseRuns run mem with large | ⟨single, kelvin⟩
    · exact not_isSign_ofNat (by omega)
    · have letter : image = 0x6B := by omega
      rw [letter]
      decide
  · cases found

/-- The lower-case form of a character that is no sign holds no sign. -/
theorem not_isSign_of_mem_lowerChar {c d : Char} (h : isSign c = false) (mem : d ∈ lowerChar c) :
    isSign d = false := by
  rw [lowerChar] at mem
  split at mem
  · rename_i ascii
    obtain ⟨same, -⟩ := toLower_ofNat c.toNat ascii
    rw [Char.ofNat_toNat] at same
    rw [List.mem_singleton.mp mem, same, h]
  · split at mem
    · rcases List.mem_cons.mp mem with rfl | mem
      · decide
      · rw [List.mem_singleton.mp mem]
        decide
    · split at mem
      · rename_i found
        rw [List.mem_singleton] at mem
        rw [mem]
        exact not_isSign_of_lower? found
      · rw [List.mem_singleton] at mem
        rw [mem]
        exact h

/-! ## Texts -/

/-- A sign stays where it is. -/
theorem lowerFrom_cons_of_isSign {c : Char} (h : isSign c = true) (afterCased : Bool)
    (rest : List Char) :
    ∃ behind, lowerFrom afterCased (c :: rest) = c :: lowerFrom behind rest := by
  have not_sigma : c ≠ 'Σ' := by
    rintro rfl
    revert h
    decide
  refine ⟨if isCaseIgnorable c then afterCased else isCased c, ?_⟩
  rw [lowerFrom, if_neg not_sigma, lowerChar_of_isSign h]
  rfl

theorem lowerChar_ne_nil (c : Char) : lowerChar c ≠ [] := by
  unfold lowerChar
  split
  · simp
  · split
    · simp
    · split <;> simp

/-- A character that is no sign becomes at least one character, none of them a sign. -/
theorem lowerFrom_cons_of_not_isSign {c : Char} (h : isSign c = false) (afterCased : Bool)
    (rest : List Char) :
    ∃ lowered behind, lowerFrom afterCased (c :: rest) = lowered ++ lowerFrom behind rest ∧
      lowered ≠ [] ∧ ∀ d ∈ lowered, isSign d = false := by
  refine ⟨_, if isCaseIgnorable c then afterCased else isCased c, lowerFrom.eq_2 .., ?_, ?_⟩
  · split
    · split <;> simp
    · exact lowerChar_ne_nil c
  · intro d mem
    split at mem
    · split at mem <;> rw [List.mem_singleton.mp mem] <;> decide
    · exact not_isSign_of_mem_lowerChar h mem

/-! ## Signs at their places -/

/-- The second text has the signs of the first one and, in the place of each other character, at
least one character that is no sign. -/
inductive Recased : List Char → List Char → Prop
  | nil : Recased [] []
  | sign {c : Char} {xs ys : List Char} :
      isSign c = true → Recased xs ys → Recased (c :: xs) (c :: ys)
  | letter {c : Char} {lowered xs ys : List Char} :
      isSign c = false → lowered ≠ [] → (∀ d ∈ lowered, isSign d = false) → Recased xs ys →
      Recased (c :: xs) (lowered ++ ys)

theorem recased_lowerFrom (afterCased : Bool) (cs : List Char) :
    Recased cs (lowerFrom afterCased cs) := by
  induction cs generalizing afterCased with
  | nil => exact .nil
  | cons c rest ih =>
    cases sign : isSign c with
    | true =>
      obtain ⟨behind, kept⟩ := lowerFrom_cons_of_isSign sign afterCased rest
      rw [kept]
      exact .sign sign (ih behind)
    | false =>
      obtain ⟨lowered, behind, replaced, some_letter, no_sign⟩ :=
        lowerFrom_cons_of_not_isSign sign afterCased rest
      rw [replaced]
      exact .letter sign some_letter no_sign (ih behind)

theorem recased_lowercase (cs : List Char) : Recased cs (lowercase cs) :=
  recased_lowerFrom false cs

namespace Recased

variable {xs ys zs : List Char} {c : Char}

/-- The parts of a text keep their order. -/
theorem exists_append (h : Recased (xs ++ ys) zs) :
    ∃ xs' ys', zs = xs' ++ ys' ∧ Recased xs xs' ∧ Recased ys ys' := by
  induction xs generalizing zs with
  | nil => exact ⟨[], zs, rfl, .nil, h⟩
  | cons x xs ih =>
    cases h with
    | sign is_sign rest =>
      obtain ⟨xs', ys', rfl, hx, hy⟩ := ih rest
      exact ⟨x :: xs', ys', rfl, .sign is_sign hx, hy⟩
    | @letter _ lowered _ _ not_sign some_letter no_sign rest =>
      obtain ⟨xs', ys', rfl, hx, hy⟩ := ih rest
      exact ⟨lowered ++ xs', ys', (List.append_assoc ..).symm,
        .letter not_sign some_letter no_sign hx, hy⟩

theorem exists_cons (is_sign : isSign c = true) (h : Recased (c :: xs) zs) :
    ∃ ys, zs = c :: ys ∧ Recased xs ys := by
  cases h with
  | sign _ rest => exact ⟨_, rfl, rest⟩
  | letter not_sign =>
    rw [is_sign] at not_sign
    cases not_sign

/-- A sign stands as often as before. -/
theorem count_eq (is_sign : isSign c = true) (h : Recased xs ys) : ys.count c = xs.count c := by
  induction h with
  | nil => rfl
  | sign _ _ ih => rw [List.count_cons, List.count_cons, ih]
  | @letter d lowered _ _ not_sign _ no_sign _ ih =>
    have other : d ≠ c := by
      rintro rfl
      rw [is_sign] at not_sign
      cases not_sign
    have absent : c ∉ lowered := by
      intro mem
      rw [no_sign c mem] at is_sign
      cases is_sign
    rw [List.count_append, List.count_eq_zero.mpr absent, Nat.zero_add, ih,
      List.count_cons_of_ne other]

end Recased

end SearchQL.Text
