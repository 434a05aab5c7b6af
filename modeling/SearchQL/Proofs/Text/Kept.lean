import SearchQL.Proofs.Text.Lowercase

/-!
# Kept characters — what lower case leaves as it is

Lower-casing a text is done character by character, but for the sigma. A class of
characters is kept if its members stand for themselves and no other character
becomes one of them (`IsKept`); then they stay, all of them and in their order
(`IsKept.filter_lowercase`). Signs are such a class, and so are blanks: neither a
capital letter nor a small one is a blank, in whatever script.
-/

namespace SearchQL.Text

/-! ## Blanks -/

theorem isBlank_iff {c : Char} :
    isBlank c = true ↔ ∃ range ∈ blankRanges, range.1 ≤ c.toNat ∧ c.toNat ≤ range.2 := by
  simp [isBlank, inRanges]

/-- No blank is a capital letter beyond ASCII or the lower-case form of one. -/
theorem caseRuns_apart_blankRanges : ∀ run ∈ caseRuns, ∀ range ∈ blankRanges,
    (range.2 < run.first ∨ run.last < range.1) ∧
      (range.2 < run.image ∨ run.image + (run.last - run.first) < range.1) := by
  decide +kernel

theorem isBlank_toLower_ofNat : ∀ code < 0x80,
    isBlank (Char.ofNat code).toLower = isBlank (Char.ofNat code) ∧
      (isBlank (Char.ofNat code) = true → (Char.ofNat code).toLower = Char.ofNat code) := by
  decide +kernel

theorem lowerChar_of_isBlank {c : Char} (h : isBlank c = true) : lowerChar c = [c] := by
  rw [lowerChar]
  split
  · rename_i ascii
    obtain ⟨-, fixed⟩ := isBlank_toLower_ofNat c.toNat ascii
    rw [Char.ofNat_toNat] at fixed
    rw [fixed h]
  · rw [if_neg (by rintro rfl; revert h; decide)]
    obtain ⟨range, mem, lower, upper⟩ := isBlank_iff.mp h
    have none_lower : caseRuns.findSome? (·.lower? c.toNat) = none := by
      rw [List.findSome?_eq_none_iff]
      intro run mem_run
      obtain ⟨apart, -⟩ := caseRuns_apart_blankRanges run mem_run range mem
      rw [CaseRun.lower?, if_neg]
      simp only [Bool.and_eq_true, decide_eq_true_eq]
      omega
    rw [none_lower]

theorem not_isBlank_of_lower? {code image : Nat}
    (h : caseRuns.findSome? (·.lower? code) = some image) : isBlank (Char.ofNat image) = false := by
  obtain ⟨run, mem, found⟩ := List.exists_of_findSome?_eq_some h
  rw [CaseRun.lower?] at found
  split at found
  · rename_i held
    simp only [Bool.and_eq_true, decide_eq_true_eq] at held
    have image_eq : run.image + (code - run.first) = image := Option.some.inj found
    obtain same | null := toNat_ofNat_cases image
    · rw [Bool.eq_false_iff]
      intro blank
      obtain ⟨range, mem_range, lower, upper⟩ := isBlank_iff.mp blank
      obtain ⟨-, apart⟩ := caseRuns_apart_blankRanges run mem range mem_range
      omega
    · rw [null]
      decide
  · cases found

theorem not_isBlank_of_mem_lowerChar {c d : Char} (h : isBlank c = false) (mem : d ∈ lowerChar c) :
    isBlank d = false := by
  rw [lowerChar] at mem
  split at mem
  · rename_i ascii
    obtain ⟨same, -⟩ := isBlank_toLower_ofNat c.toNat ascii
    rw [Char.ofNat_toNat] at same
    rw [List.mem_singleton.mp mem, same, h]
  · split at mem
    · have either : d = 'i' ∨ d = '\u0307' := by simpa using mem
      obtain rfl | rfl := either <;> decide
    · split at mem
      · rename_i found
        rw [List.mem_singleton.mp mem]
        exact not_isBlank_of_lower? found
      · rw [List.mem_singleton.mp mem]
        exact h

/-! ## Characters that are kept -/

/-- Whether the characters of a class stand for themselves in lower case and no others become one of
them. -/
structure IsKept (p : Char → Bool) : Prop where
  same : ∀ c, p c = true → lowerChar c = [c]
  none_new : ∀ c d, p c = false → d ∈ lowerChar c → p d = false
  sigma : p 'Σ' = false ∧ p 'σ' = false ∧ p 'ς' = false

theorem isKept_isSign : IsKept isSign where
  same _ h := lowerChar_of_isSign h
  none_new _ _ h mem := not_isSign_of_mem_lowerChar h mem
  sigma := by decide

theorem isKept_isBlank : IsKept isBlank where
  same _ h := lowerChar_of_isBlank h
  none_new _ _ h mem := not_isBlank_of_mem_lowerChar h mem
  sigma := by decide

namespace IsKept

variable {p q : Char → Bool}

theorem or (hp : IsKept p) (hq : IsKept q) : IsKept fun c => p c || q c where
  same c h := (Bool.or_eq_true_iff.mp h).elim (hp.same c) (hq.same c)
  none_new c d h mem := by
    obtain ⟨not_p, not_q⟩ := Bool.or_eq_false_iff.mp h
    rw [hp.none_new c d not_p mem, hq.none_new c d not_q mem]
    rfl
  sigma := by simp [hp.sigma, hq.sigma]

/-- The characters of the class stay, in their order. -/
theorem filter_lowerFrom (kept : IsKept p) (afterCased : Bool) (cs : List Char) :
    (lowerFrom afterCased cs).filter p = cs.filter p := by
  induction cs generalizing afterCased with
  | nil => rfl
  | cons c cs ih =>
    rw [lowerFrom, List.filter_append, ih, List.filter_cons]
    obtain ⟨capital, small, final⟩ := kept.sigma
    cases held : p c with
    | true =>
      have not_sigma : c ≠ 'Σ' := by
        rintro rfl
        rw [capital] at held
        cases held
      rw [if_neg not_sigma, kept.same c held, List.filter_cons_of_pos held]
      rfl
    | false =>
      have none_kept : ∀ d ∈ (if c = 'Σ' then (if afterCased && !startsCased cs then ['ς'] else ['σ'])
          else lowerChar c), ¬ p d = true := by
        intro d mem
        rw [Bool.not_eq_true]
        split at mem
        · split at mem
          · rw [List.mem_singleton.mp mem, final]
          · rw [List.mem_singleton.mp mem, small]
        · exact kept.none_new c d held mem
      rw [List.filter_eq_nil_iff.mpr none_kept]
      rfl

theorem filter_lowercase (kept : IsKept p) (cs : List Char) :
    (lowercase cs).filter p = cs.filter p :=
  kept.filter_lowerFrom false cs

end IsKept

end SearchQL.Text
