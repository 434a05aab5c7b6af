import SearchQL.Match.Relaxed
import SearchQL.Proofs.Match.Reading
import SearchQL.Proofs.Text.Lowercase

/-!
# Confined text — what cannot leave its group

A text is *confined* when each of its backslashes stands before a character that
is to be guarded and none of the characters that could end its group stands
alone. Quotes may stand alone, and the relation carries whether they are odd in
number: an open quote would swallow the end of the group.

Both escapings write confined text with an even number of quotes. For full
escaping that is one step. For relaxed escaping it is the invariant of a pipeline
whose later stages delete dashes and blanks, put backslashes before dashes and
quotes around words, and change letters: each stage has its lemma here, stated
for any confined text, whatever the stages before it are. Only the first stage
and the closing of quotes settle the parity; every later stage keeps it.

`exists_read?` says what a reader of escapes makes of confined text, which is all
that a group needs to know about it.
-/

namespace SearchQL.Match

/-- The characters that end or open something where they stand without a backslash. -/
def delimiters : List Char := ['\\', '(', ')', '@', '"']

/-- Text whose backslashes guard one of the given characters each and whose other characters
delimit nothing but quotes; the flag says whether these quotes are odd in number. -/
inductive Confined (guarded : List Char) : Bool → List Char → Prop
  | nil : Confined guarded false []
  | escape {odd : Bool} {c : Char} {cs : List Char} :
      c ∈ guarded → Confined guarded odd cs → Confined guarded odd ('\\' :: c :: cs)
  | quote {odd : Bool} {cs : List Char} :
      Confined guarded odd cs → Confined guarded (!odd) ('"' :: cs)
  | plain {odd : Bool} {c : Char} {cs : List Char} :
      c ∉ delimiters → Confined guarded odd cs → Confined guarded odd (c :: cs)

namespace Confined

variable {guarded : List Char} {odd : Bool} {cs : List Char}

theorem append {first second : Bool} {xs ys : List Char} (hx : Confined guarded first xs)
    (hy : Confined guarded second ys) : Confined guarded (first ^^ second) (xs ++ ys) := by
  induction hx with
  | nil =>
    rw [Bool.false_xor]
    exact hy
  | escape mem _ ih => exact .escape mem ih
  | quote _ ih =>
    rw [Bool.not_xor]
    exact .quote ih
  | plain not_delimiter _ ih => exact .plain not_delimiter ih

/-- A text breaks in two at a plain space. -/
theorem split (space : ' ' ∉ guarded) (h : Confined guarded odd cs) :
    ∀ xs ys, cs = xs ++ ' ' :: ys →
      ∃ first second, odd = (first ^^ second) ∧ Confined guarded first xs ∧
        Confined guarded second ys := by
  induction h with
  | nil =>
    intro xs ys eq
    cases xs <;> cases eq
  | escape mem rest ih =>
    rintro (_ | ⟨x, _ | ⟨y, xs⟩⟩) ys eq
    · cases eq
    · cases eq
      exact absurd mem space
    · cases eq
      obtain ⟨first, second, parity, hx, hy⟩ := ih xs ys rfl
      exact ⟨first, second, parity, .escape mem hx, hy⟩
  | quote rest ih =>
    rintro (_ | ⟨x, xs⟩) ys eq
    · cases eq
    · cases eq
      obtain ⟨first, second, rfl, hx, hy⟩ := ih xs ys rfl
      exact ⟨!first, second, by rw [Bool.not_xor], .quote hx, hy⟩
  | plain not_delimiter rest ih =>
    rintro (_ | ⟨x, xs⟩) ys eq
    · cases eq
      exact ⟨false, _, by rw [Bool.false_xor], .nil, rest⟩
    · cases eq
      obtain ⟨first, second, parity, hx, hy⟩ := ih xs ys rfl
      exact ⟨first, second, parity, .plain not_delimiter hx, hy⟩

/-! ## Closing quotes -/

theorem succ_mod_two {n : Nat} {odd : Bool} (h : n % 2 = odd.toNat) :
    (n + 1) % 2 = (!odd).toNat := by
  cases odd with
  | false =>
    rw [Bool.toNat_false] at h
    rw [Bool.not_false, Bool.toNat_true]
    omega
  | true =>
    rw [Bool.toNat_true] at h
    rw [Bool.not_true, Bool.toNat_false]
    omega

theorem count_quote (unguarded : '"' ∉ guarded) (h : Confined guarded odd cs) :
    cs.count '"' % 2 = odd.toNat := by
  induction h with
  | nil => rfl
  | @escape _ c _ mem _ ih =>
    have not_quote : c ≠ '"' := by
      rintro rfl
      exact unguarded mem
    rw [List.count_cons_of_ne (by decide), List.count_cons_of_ne not_quote, ih]
  | quote _ ih =>
    rw [List.count_cons_self]
    exact succ_mod_two ih
  | @plain _ c _ not_delimiter _ ih =>
    have not_quote : c ≠ '"' := by
      rintro rfl
      exact not_delimiter (by decide)
    rw [List.count_cons_of_ne not_quote, ih]

/-- Closing makes the quotes even in number. -/
theorem closeQuotes (unguarded : '"' ∉ guarded) (h : Confined guarded odd cs) :
    Confined guarded false (closeQuotes cs) := by
  rw [Match.closeQuotes, h.count_quote unguarded]
  cases odd
  · exact h
  · exact h.append (.quote .nil)

/-! ## Collapsing dashes -/

theorem dropWhile_isBlank (h : Confined guarded odd cs) :
    Confined guarded odd (cs.dropWhile Text.isBlank) := by
  induction h with
  | nil => exact .nil
  | escape mem rest _ =>
    rw [List.dropWhile_cons_of_neg (by decide)]
    exact .escape mem rest
  | quote rest _ =>
    rw [List.dropWhile_cons_of_neg (by decide)]
    exact .quote rest
  | @plain _ c _ not_delimiter rest ih =>
    cases blank : Text.isBlank c with
    | true =>
      rw [List.dropWhile_cons_of_pos blank]
      exact ih
    | false =>
      rw [List.dropWhile_cons_of_neg (by rw [blank]; exact Bool.false_ne_true)]
      exact .plain not_delimiter rest

theorem pushCollapsed_dash (h : Confined guarded odd cs) :
    Confined guarded odd (pushCollapsed '-' cs) := by
  rw [pushCollapsed, if_pos rfl]
  split
  · rename_i more eq
    exact eq ▸ h.dropWhile_isBlank
  · exact .plain (by decide) h

theorem collapseDashes (dash : '-' ∉ guarded) (h : Confined guarded odd cs) :
    Confined guarded odd (collapseDashes cs) := by
  induction h with
  | nil => exact .nil
  | @escape _ c _ mem _ ih =>
    have not_dash : c ≠ '-' := by
      rintro rfl
      exact dash mem
    rw [collapseDashes_cons, collapseDashes_cons, pushCollapsed_of_ne (by decide),
      pushCollapsed_of_ne not_dash]
    exact .escape mem ih
  | quote _ ih =>
    rw [collapseDashes_cons, pushCollapsed_of_ne (by decide)]
    exact .quote ih
  | @plain _ c _ not_delimiter _ ih =>
    rw [collapseDashes_cons]
    by_cases is_dash : c = '-'
    · rw [is_dash]
      exact pushCollapsed_dash ih
    · rw [pushCollapsed_of_ne is_dash]
      exact .plain not_delimiter ih

/-! ## Guarding dashes -/

theorem guardDashes (dash : '-' ∉ guarded) (h : Confined guarded odd cs) :
    ∀ before, Confined ('-' :: guarded) odd (guardDashes before cs) := by
  induction h with
  | nil =>
    intro before
    exact .nil
  | @escape _ c _ mem _ ih =>
    intro before
    have not_dash : c ≠ '-' := by
      rintro rfl
      exact dash mem
    rw [guardDashes_of_ne (by decide), guardDashes_of_ne not_dash]
    exact .escape (List.mem_cons_of_mem _ mem) (ih c)
  | quote _ ih =>
    intro before
    rw [guardDashes_of_ne (by decide)]
    exact .quote (ih '"')
  | @plain _ c _ not_delimiter _ ih =>
    intro before
    rw [Match.guardDashes]
    split
    · rename_i both
      rw [both.1]
      exact .escape List.mem_cons_self (ih '-')
    · exact .plain not_delimiter (ih c)

theorem guardWord (dash : '-' ∉ guarded) (h : Confined guarded odd cs) :
    Confined ('-' :: guarded) odd (guardWord cs) := by
  cases cs with
  | nil => exact h.guardDashes dash '\\'
  | cons c rest =>
    have within := h.guardDashes dash '\\'
    rw [guardDashes_backslash] at within
    rw [Match.guardWord]
    split
    · rename_i same
      exact same ▸ within
    · split
      · exact within
      · -- the two new quotes leave the parity as it is
        have wrapped := Confined.quote (within.append (.quote .nil))
        rw [Bool.not_false, Bool.xor_true, Bool.not_not] at wrapped
        exact wrapped

theorem intercalate_guardWord (dash : '-' ∉ guarded) (space : ' ' ∉ guarded) :
    ∀ (words : List (List Char)) (odd : Bool), Confined guarded odd ([' '].intercalate words) →
      Confined ('-' :: guarded) odd ([' '].intercalate (words.map Match.guardWord))
  | [], odd, h => by
    cases h
    exact .nil
  | [word], odd, h => by
    rw [List.intercalate_singleton] at h
    rw [List.map_singleton, List.intercalate_singleton]
    exact h.guardWord dash
  | word :: next :: words, odd, h => by
    rw [List.intercalate_cons_cons, List.append_assoc, List.singleton_append] at h
    obtain ⟨first, second, rfl, this, those⟩ := h.split space _ _ rfl
    rw [List.map_cons, List.map_cons, List.intercalate_cons_cons, List.append_assoc,
      List.singleton_append]
    exact (this.guardWord dash).append
      (.plain (by decide) (intercalate_guardWord dash space (next :: words) second those))

theorem guardWords (dash : '-' ∉ guarded) (space : ' ' ∉ guarded) (h : Confined guarded odd cs) :
    Confined ('-' :: guarded) odd (guardWords cs) := by
  have whole : [' '].intercalate (cs.splitOn ' ') = cs := List.intercalate_splitOn ' '
  rw [← whole] at h
  exact intercalate_guardWord dash space _ odd h

/-! ## Lower case -/

theorem isSign_of_mem_delimiters : ∀ c ∈ delimiters, Text.isSign c = true :=
  List.all_eq_true.mp (by decide)

theorem prepend_of_not_isSign {xs : List Char} (none : ∀ d ∈ xs, Text.isSign d = false)
    (h : Confined guarded odd cs) : Confined guarded odd (xs ++ cs) := by
  induction xs with
  | nil => exact h
  | cons d xs ih =>
    have not_delimiter : d ∉ delimiters := by
      intro mem
      have sign := isSign_of_mem_delimiters d mem
      rw [none d List.mem_cons_self] at sign
      cases sign
    exact .plain not_delimiter (ih fun e mem => none e (List.mem_cons_of_mem d mem))

theorem recased (signs : ∀ c ∈ guarded, Text.isSign c = true) (h : Confined guarded odd cs) :
    ∀ {lowered}, Text.Recased cs lowered → Confined guarded odd lowered := by
  induction h with
  | nil =>
    rintro _ ⟨⟩
    exact .nil
  | escape mem _ ih =>
    intro lowered h
    obtain ⟨_, rfl, behind⟩ := h.exists_cons (by decide)
    obtain ⟨_, rfl, rest⟩ := behind.exists_cons (signs _ mem)
    exact .escape mem (ih rest)
  | quote _ ih =>
    intro lowered h
    obtain ⟨_, rfl, rest⟩ := h.exists_cons (by decide)
    exact .quote (ih rest)
  | plain not_delimiter _ ih =>
    intro lowered h
    cases h with
    | sign _ rest => exact .plain not_delimiter (ih rest)
    | letter _ _ no_sign rest => exact prepend_of_not_isSign no_sign (ih rest)

/-! ## Reading -/

/-- Confined text is read to its end, delimits nothing and has plain quotes of its own parity. -/
theorem exists_read? (h : Confined guarded odd cs) :
    ∃ glyphs, read? cs = some glyphs ∧ (∀ c ∈ ['(', ')', '@'], Glyph.plain c ∉ glyphs) ∧
      glyphs.count (.plain '"') % 2 = odd.toNat := by
  induction h with
  | nil => exact ⟨[], rfl, fun _ _ => List.not_mem_nil, rfl⟩
  | @escape _ c _ _ _ ih =>
    obtain ⟨glyphs, read, none, parity⟩ := ih
    refine ⟨.escaped c :: glyphs, read?_escaped read, fun d hd mem => ?_, ?_⟩
    · rcases List.mem_cons.mp mem with eq | mem
      · cases eq
      · exact none d hd mem
    · rw [List.count_cons_of_ne (by simp), parity]
  | quote _ ih =>
    obtain ⟨glyphs, read, none, parity⟩ := ih
    refine ⟨.plain '"' :: glyphs, read?_plain (by decide) read, fun d hd mem => ?_, ?_⟩
    · rcases List.mem_cons.mp mem with eq | mem
      · cases eq
        revert hd
        decide
      · exact none d hd mem
    · rw [List.count_cons_self]
      exact succ_mod_two parity
  | @plain _ c _ not_delimiter _ ih =>
    obtain ⟨glyphs, read, none, parity⟩ := ih
    have apart {d : Char} (hd : d ∈ delimiters) : c ≠ d := fun eq => not_delimiter (eq ▸ hd)
    refine ⟨.plain c :: glyphs, read?_plain (apart (by decide)) read, fun d hd mem => ?_, ?_⟩
    · rcases List.mem_cons.mp mem with eq | mem
      · have inner : ['(', ')', '@'] ⊆ delimiters := by decide
        exact apart (inner hd) (Glyph.plain.inj eq).symm
      · exact none d hd mem
    · rw [List.count_cons_of_ne fun eq => apart (by decide) (Glyph.plain.inj eq), parity]

end Confined

/-! ## The two escapings -/

/-- A backslash before each special character confines any text, if all delimiters but perhaps the
quote are special. -/
theorem exists_confined_guardChar (special : List Char)
    (covered : delimiters ⊆ '"' :: special) (cs : List Char) :
    ∃ odd, Confined special odd (cs.flatMap (guardChar special)) ∧
      ('"' ∈ special → odd = false) := by
  induction cs with
  | nil => exact ⟨false, .nil, fun _ => rfl⟩
  | cons c cs ih =>
    obtain ⟨odd, confined, even⟩ := ih
    rw [List.flatMap_cons, guardChar]
    by_cases mem : c ∈ special
    · rw [if_pos mem]
      exact ⟨odd, .escape mem confined, even⟩
    · rw [if_neg mem]
      by_cases is_quote : c = '"'
      · rw [is_quote] at mem ⊢
        exact ⟨!odd, .quote confined, fun special_quote => absurd special_quote mem⟩
      · have not_delimiter : c ∉ delimiters :=
          fun h => (List.mem_cons.mp (covered h)).elim is_quote mem
        exact ⟨odd, .plain not_delimiter confined, even⟩

theorem confined_escapeChars (cs : List Char) : Confined operators false (escapeChars cs) := by
  obtain ⟨odd, confined, even⟩ := exists_confined_guardChar operators (by decide) cs
  exact even (by decide) ▸ confined

theorem isSign_of_mem_escaped : ∀ c ∈ '-' :: guardedOperators, Text.isSign c = true :=
  List.all_eq_true.mp (by decide)

theorem confined_relaxChars (cs : List Char) :
    Confined ('-' :: guardedOperators) false (relaxChars cs) := by
  obtain ⟨odd, guarded, -⟩ :=
    exists_confined_guardChar guardedOperators (by decide) cs
  have closed := guarded.closeQuotes (by decide)
  have collapsed := closed.collapseDashes (by decide)
  have words := collapsed.guardWords (by decide) (by decide)
  exact words.recased isSign_of_mem_escaped (Text.recased_lowercase _)

end SearchQL.Match
