import SearchQL.Proofs.Match.InnerDash

/-!
# Phrases — text that its writer has put in quotes

Someone who puts quotes around a text asks for its words as one phrase. Relaxed
escaping keeps the two quotes, but it cuts the text into words before it looks for
inner dashes, and puts a word with an inner dash in quotes of its own unless the
word begins and ends with a quote. Only a phrase of one word does both. In a
longer phrase the new quotes of a word end the phrase and open another one.

`isPhrase_relax_iff` says which phrases stay whole, and how many quotes are in
the others. The quotes are counted word by word: a word with at most one quote has
as many as before, and two more if it has an inner dash
(`count_quote_relaxWord_of_le_one`). The words of a phrase are those of the text
between the quotes, with one quote before the first and the other behind the last
(`words_quoted_of_cons`), so in a phrase of several words no word has two.
-/

namespace SearchQL.Match

/-- A text in quotes. -/
def quoted (cs : List Char) : List Char := '"' :: (cs ++ ['"'])

/-- Whether the first and the last character of a text are quotes, and no other one is. -/
def IsPhrase (cs : List Char) : Prop := ∃ body, cs = quoted body ∧ '"' ∉ body

theorem count_quote_quoted (cs : List Char) : (quoted cs).count '"' = cs.count '"' + 2 := by
  rw [quoted, List.count_cons_self, List.count_append]
  rfl

/-! ## The words of a phrase -/

theorem collapseDashes_concat {c : Char} (not_dash : c ≠ '-') (not_blank : Text.isBlank c = false)
    (cs : List Char) : collapseDashes (cs ++ [c]) = collapseDashes cs ++ [c] := by
  induction cs with
  | nil => simp [pushCollapsed_of_ne not_dash]
  | cons d cs ih =>
    rw [List.cons_append, collapseDashes_cons, collapseDashes_cons, ih]
    by_cases dash : d = '-'
    · subst dash
      rw [pushCollapsed_dash_eq, pushCollapsed_dash_eq, List.dropWhile_append]
      cases rest : (collapseDashes cs).dropWhile Text.isBlank with
      | nil => simp [not_dash, not_blank]
      | cons e more => by_cases next : e = '-' <;> simp [next]
    · rw [pushCollapsed_of_ne dash, pushCollapsed_of_ne dash, List.cons_append]

theorem collapseDashes_quoted (cs : List Char) :
    collapseDashes (quoted cs) = quoted (collapseDashes cs) := by
  rw [quoted, collapseDashes_cons, pushCollapsed_of_ne (by decide),
    collapseDashes_concat (by decide) (by decide), quoted]

theorem words_of_quoted {cs : List Char} (unquoted : '"' ∉ cs) :
    words (quoted cs) = (quoted (collapseDashes cs)).splitOn ' ' := by
  have two : (quoted cs).count '"' = 2 := by
    rw [count_quote_quoted, List.count_eq_zero.mpr unquoted]
  rw [words, closeQuotes, two, if_neg (by decide), collapseDashes_quoted]

/-- The text between the quotes, put together from its words. -/
theorem intercalate_words {cs : List Char} (unquoted : '"' ∉ cs) :
    [' '].intercalate (words cs) = collapseDashes cs := by
  rw [words_of_unquoted unquoted]
  exact List.intercalate_splitOn ' '

/-- A phrase of one word is that word in quotes. -/
theorem words_quoted_of_singleton {cs w : List Char} (unquoted : '"' ∉ cs) (one : words cs = [w]) :
    words (quoted cs) = [quoted w] := by
  have no_space : ' ' ∉ w := space_not_mem_of_mem_words (one ▸ List.mem_singleton_self w)
  have whole : quoted (collapseDashes cs) = [' '].intercalate [quoted w] := by
    rw [← intercalate_words unquoted, one, List.intercalate_singleton, List.intercalate_singleton]
  rw [words_of_quoted unquoted, whole]
  exact List.splitOn_intercalate ' ' (by simpa [quoted] using no_space) (by simp)

theorem exists_words_eq {cs : List Char} (several : (words cs).length ≠ 1) :
    ∃ first middle last, words cs = first :: (middle ++ [last]) := by
  have some_word : words cs ≠ [] := List.splitOn_ne_nil ' ' _
  obtain ⟨first, rest, cut⟩ := List.exists_cons_of_ne_nil some_word
  rcases List.eq_nil_or_concat rest with rfl | ⟨middle, last, rfl⟩
  · exact absurd (by rw [cut]; rfl) several
  · exact ⟨first, middle, last, by rw [cut, List.concat_eq_append]⟩

/-- In a longer phrase the quotes stand with the first and with the last word. -/
theorem words_quoted_of_cons {cs first last : List Char} {middle : List (List Char)}
    (unquoted : '"' ∉ cs) (cut : words cs = first :: (middle ++ [last])) :
    words (quoted cs) = ('"' :: first) :: (middle ++ [last ++ ['"']]) := by
  have whole : quoted (collapseDashes cs) =
      [' '].intercalate (('"' :: first) :: (middle ++ [last ++ ['"']])) := by
    rw [← intercalate_words unquoted, cut, ← List.cons_append, ← List.cons_append,
      intercalate_append_cons, intercalate_append_cons]
    simp [quoted]
  have no_space : ∀ w ∈ ('"' :: first) :: (middle ++ [last ++ ['"']]), ' ' ∉ w := by
    have each : ∀ w ∈ first :: (middle ++ [last]), ' ' ∉ w := fun w mem =>
      space_not_mem_of_mem_words (cut ▸ mem)
    simpa [or_imp, forall_and] using each
  rw [words_of_quoted unquoted, whole]
  exact List.splitOn_intercalate ' ' no_space (by simp)

/-! ## Inner dashes of a phrase -/

theorem hasInnerDash_cons {c : Char} (not_backslash : c ≠ '\\') (w : List Char) :
    HasInnerDash (c :: w) ↔ w.head? = some '-' ∨ HasInnerDash w := by
  cases w with
  | nil => simp [not_hasInnerDash_singleton, not_hasInnerDash_nil]
  | cons d w => simp [hasInnerDash_cons_cons, not_backslash]

theorem hasInnerDash_concat {c : Char} (not_dash : c ≠ '-') (w : List Char) :
    HasInnerDash (w ++ [c]) ↔ HasInnerDash w := by
  induction w with
  | nil => exact iff_of_false (not_hasInnerDash_singleton c) not_hasInnerDash_nil
  | cons d w ih =>
    cases w with
    | nil => simp [hasInnerDash_cons_cons, not_dash, not_hasInnerDash_singleton]
    | cons e w =>
      rw [List.cons_append, List.cons_append, hasInnerDash_cons_cons, hasInnerDash_cons_cons,
        ← List.cons_append, ih]

/-- The first word of a text begins with a dash if the text does. -/
theorem head?_words {cs first : List Char} {rest : List (List Char)} (unquoted : '"' ∉ cs)
    (cut : words cs = first :: rest) : first.head? = some '-' ↔ cs.head? = some '-' := by
  rw [← head?_collapseDashes cs, ← intercalate_words unquoted, cut]
  cases first <;> cases rest <;> simp [List.intercalate_cons_cons]

/-- No word of a phrase has an inner dash if none of the words between the quotes has one and the
first of them begins with none. -/
theorem forall_words_quoted_iff {cs : List Char} (unquoted : '"' ∉ cs)
    (several : (words cs).length ≠ 1) :
    (∀ w ∈ words (quoted cs), ¬ HasInnerDash w) ↔
      cs.head? ≠ some '-' ∧ ∀ w ∈ words cs, ¬ HasInnerDash w := by
  obtain ⟨first, middle, last, cut⟩ := exists_words_eq several
  rw [words_quoted_of_cons unquoted cut, Ne, ← head?_words unquoted cut, cut]
  simp [hasInnerDash_cons, hasInnerDash_concat, or_imp, forall_and, and_assoc]

/-! ## Counting quotes -/

theorem count_quote_intercalate (ws : List (List Char)) :
    ([' '].intercalate ws).count '"' = ws.flatten.count '"' := by
  induction ws with
  | nil => rfl
  | cons w ws ih =>
    cases ws with
    | nil => simp
    | cons next ws =>
      rw [List.intercalate_cons_cons, List.count_append, List.count_append, ih]
      exact List.count_append.symm

theorem two_le_count_of_isQuoted {cs : List Char} (h : isQuoted cs = true) :
    2 ≤ cs.count '"' := by
  simp only [isQuoted, Bool.and_eq_true, beq_iff_eq, decide_eq_true_eq] at h
  obtain ⟨⟨first, last⟩, long⟩ := h
  obtain ⟨rest, rfl⟩ := List.head?_eq_some_iff.mp first
  obtain ⟨before, eq⟩ := List.getLast?_eq_some_iff.mp last
  cases before with
  | nil => simp_all
  | cons b before =>
    cases eq
    simp

/-- A word with at most one quote does not stand in quotes. -/
theorem count_quote_relaxWord_of_le_one {w : List Char} (few : w.count '"' ≤ 1) :
    (relaxWord w).count '"' = w.count '"' + if HasInnerDash w then 2 else 0 := by
  have not_quoted : ¬ isQuoted (guardedWord w) = true := fun both => by
    have two := two_le_count_of_isQuoted both
    rw [count_quote_guardedWord] at two
    omega
  rw [relaxWord_eq, if_neg not_quoted]
  simp only [guardedWord_eq_iff, ite_not]
  split
  · simp [List.count_append, count_quote_guardedWord]
  · rw [count_quote_guardedWord, Nat.add_zero]

theorem count_quote_words {ws : List (List Char)} (few : ∀ w ∈ ws, w.count '"' ≤ 1) :
    ([' '].intercalate (ws.map relaxWord)).count '"' =
      ws.flatten.count '"' + 2 * ws.countP (HasInnerDash ·) := by
  rw [count_quote_intercalate]
  induction ws with
  | nil => rfl
  | cons w ws ih =>
    obtain ⟨this, those⟩ := List.forall_mem_cons.mp few
    rw [List.map_cons, List.flatten_cons, List.flatten_cons, List.count_append, List.count_append,
      ih those, count_quote_relaxWord_of_le_one this, List.countP_cons]
    simp only [decide_eq_true_eq]
    split <;> omega

/-- The words of a phrase have the two quotes of the phrase. -/
theorem count_quote_words_quoted {cs : List Char} (unquoted : '"' ∉ cs) :
    (words (quoted cs)).flatten.count '"' = 2 := by
  have joined : [' '].intercalate (words (quoted cs)) = quoted (collapseDashes cs) := by
    rw [words_of_quoted unquoted]
    exact List.intercalate_splitOn ' '
  have none : (collapseDashes cs).count '"' = 0 :=
    List.count_eq_zero.mpr fun mem => unquoted (mem_collapseDashes mem)
  rw [← count_quote_intercalate, joined, count_quote_quoted, none]

/-! ## The quotes at both ends -/

theorem guardDashes_concat {c : Char} (not_dash : c ≠ '-') (before : Char) (cs : List Char) :
    guardDashes before (cs ++ [c]) = guardDashes before cs ++ [c] := by
  induction cs generalizing before with
  | nil => rw [List.nil_append, guardDashes_of_ne not_dash]; rfl
  | cons d cs ih =>
    rw [List.cons_append, guardDashes, guardDashes, ih]
    split <;> rfl

theorem guardChar_quote : guardChar guardedOperators '"' = ['"'] :=
  guardChar_of_not_mem (by simp [guardedOperators])

theorem guardedWord_quote_cons (w : List Char) :
    guardedWord ('"' :: w) = '"' :: guardDashes '"' (guardOperators w) := by
  rw [guardedWord_cons, guardChar_quote, List.singleton_append]

theorem guardedWord_concat_quote (w : List Char) :
    guardedWord (w ++ ['"']) = guardedWord w ++ ['"'] := by
  have guarded : guardOperators (w ++ ['"']) = guardOperators w ++ ['"'] := by
    rw [guardOperators, List.flatMap_append, List.flatMap_singleton, guardChar_quote]
    rfl
  rw [guardedWord, guarded, guardDashes_concat (by decide), guardedWord]

theorem exists_relaxWord_quote_cons (w : List Char) :
    ∃ more, relaxWord ('"' :: w) = '"' :: more := by
  rcases relaxWord_cases ('"' :: w) with bare | wrapped
  · exact ⟨_, bare.trans (guardedWord_quote_cons w)⟩
  · exact ⟨_, wrapped⟩

theorem exists_relaxWord_concat_quote (w : List Char) :
    ∃ more, relaxWord (w ++ ['"']) = more ++ ['"'] := by
  rcases relaxWord_cases (w ++ ['"']) with bare | wrapped
  · exact ⟨_, bare.trans (guardedWord_concat_quote w)⟩
  · exact ⟨_, wrapped⟩

/-- A word in quotes keeps them and gets no others. -/
theorem relaxWord_quoted (w : List Char) :
    relaxWord (quoted w) = quoted (guardDashes '"' (guardOperators w)) := by
  have guarded : guardedWord (quoted w) = quoted (guardDashes '"' (guardOperators w)) := by
    rw [quoted, ← List.cons_append, guardedWord_concat_quote, guardedWord_quote_cons]
    rfl
  have stands : isQuoted (guardedWord (quoted w)) = true := by
    rw [guarded]
    simp [quoted, isQuoted, List.getLast?_cons]
  rw [relaxWord_eq, if_pos stands, ite_self, guarded]

/-- Words of which the first begins with a quote and the last ends with one are written between two
quotes. -/
theorem exists_intercalate_relaxWord (first last : List Char) (middle : List (List Char)) :
    ∃ body, [' '].intercalate
      ((('"' :: first) :: (middle ++ [last ++ ['"']])).map relaxWord) = quoted body := by
  obtain ⟨opened, first_eq⟩ := exists_relaxWord_quote_cons first
  obtain ⟨closed, last_eq⟩ := exists_relaxWord_concat_quote last
  refine ⟨opened ++ ' ' :: (middle.flatMap (relaxWord · ++ [' ']) ++ closed), ?_⟩
  rw [← List.cons_append, List.map_append, List.map_singleton, List.map_cons, first_eq, last_eq,
    intercalate_append_cons, List.flatMap_cons, List.flatMap_map]
  simp [quoted]

/-- Whatever its words are, a phrase is written between two quotes, and the others are those that
its words get. -/
theorem exists_quoted_words {cs : List Char} (unquoted : '"' ∉ cs) :
    ∃ body, [' '].intercalate ((words (quoted cs)).map relaxWord) = quoted body ∧
      body.count '"' =
        if (words cs).length = 1 then 0 else 2 * (words (quoted cs)).countP (HasInnerDash ·) := by
  have none : ∀ w ∈ words cs, w.count '"' = 0 := fun w mem =>
    List.count_eq_zero.mpr (quote_not_mem_of_mem_words unquoted mem)
  split
  · rename_i one
    obtain ⟨w, cut⟩ := List.length_eq_one_iff.mp one
    refine ⟨guardDashes '"' (guardOperators w), ?_, ?_⟩
    · rw [words_quoted_of_singleton unquoted cut, List.map_singleton, List.intercalate_singleton,
        relaxWord_quoted]
    · rw [count_quote_guardDashes, count_quote_guardOperators]
      exact none w (cut ▸ List.mem_singleton_self w)
  · rename_i several
    obtain ⟨first, middle, last, cut⟩ := exists_words_eq several
    have these := words_quoted_of_cons unquoted cut
    rw [cut, List.forall_mem_cons, List.forall_mem_append, List.forall_mem_singleton] at none
    obtain ⟨first_none, middle_none, last_none⟩ := none
    have few : ∀ w ∈ words (quoted cs), w.count '"' ≤ 1 := by
      rw [these, List.forall_mem_cons, List.forall_mem_append, List.forall_mem_singleton,
        List.count_cons_self, first_none, List.count_append, last_none]
      exact ⟨le_rfl, fun w mem => (middle_none w mem).le.trans (Nat.zero_le 1), le_rfl⟩
    obtain ⟨body, written⟩ := exists_intercalate_relaxWord first last middle
    rw [← these] at written
    have counted := count_quote_words few
    rw [written, count_quote_quoted, count_quote_words_quoted unquoted] at counted
    exact ⟨body, written, by omega⟩

/-- Lower case leaves the two quotes where they are. -/
theorem exists_quoted_of_recased {body ys : List Char} (h : Text.Recased (quoted body) ys) :
    ∃ lowered, ys = quoted lowered ∧ lowered.count '"' = body.count '"' := by
  obtain ⟨_, rfl, behind⟩ := h.exists_cons (by decide)
  obtain ⟨lowered, _, rfl, same, last⟩ := behind.exists_append
  obtain ⟨_, rfl, ⟨⟩⟩ := last.exists_cons (by decide)
  exact ⟨lowered, rfl, same.count_eq (by decide)⟩

/-! ## Which phrases stay whole -/

theorem isPhrase_quoted_iff (body : List Char) : IsPhrase (quoted body) ↔ body.count '"' = 0 := by
  rw [List.count_eq_zero]
  constructor
  · rintro ⟨other, eq, none⟩
    simp only [quoted, List.cons.injEq, List.append_cancel_right_eq, true_and] at eq
    exact eq ▸ none
  · exact fun none => ⟨body, rfl, none⟩

theorem exists_relax_quoted {p : String} (unquoted : '"' ∉ p.toList) :
    ∃ body, (relax ("\"" ++ p ++ "\"")).toList = quoted body ∧
      body.count '"' = if (words p.toList).length = 1 then 0
        else 2 * (words (quoted p.toList)).countP (HasInnerDash ·) := by
  have in_quotes : ("\"" ++ p ++ "\"").toList = quoted p.toList := by simp [quoted]
  obtain ⟨body, joined, counted⟩ := exists_quoted_words unquoted
  have lower := Text.recased_lowercase ([' '].intercalate ((words (quoted p.toList)).map relaxWord))
  rw [← relaxChars_eq, joined] at lower
  obtain ⟨lowered, written, same⟩ := exists_quoted_of_recased lower
  exact ⟨lowered, by rw [relax, String.toList_ofList, in_quotes, written], same.trans counted⟩

/-- **A phrase stays one exactly if it is one word, or none of its words has an inner dash and the
first one begins with none.** It always stays between two quotes. In a phrase of several words each
word with an inner dash, the quotes of the phrase being part of its words, adds two. -/
theorem isPhrase_relax_iff {p : String} (unquoted : '"' ∉ p.toList) :
    (IsPhrase (relax ("\"" ++ p ++ "\"")).toList ↔
      (words p.toList).length = 1 ∨
        p.toList.head? ≠ some '-' ∧ ∀ w ∈ words p.toList, ¬ HasInnerDash w) ∧
      ∃ body, (relax ("\"" ++ p ++ "\"")).toList = quoted body ∧
        body.count '"' = if (words p.toList).length = 1 then 0
          else 2 * (words (quoted p.toList)).countP (HasInnerDash ·) := by
  obtain ⟨body, written, counted⟩ := exists_relax_quoted unquoted
  refine ⟨?_, body, written, counted⟩
  rw [written, isPhrase_quoted_iff, counted]
  split
  · rename_i one
    exact iff_of_true rfl (.inl one)
  · rename_i several
    rw [or_iff_right several, ← forall_words_quoted_iff unquoted several, Nat.mul_eq_zero,
      or_iff_right (by decide), List.countP_eq_zero]
    simp only [decide_eq_true_eq]

/-- A phrase of one word with dashes, one with a dash before its second word, and two that break. -/
theorem isPhrase_relax_iff_dashes :
    ('"' ∉ "-a-b".toList ∧ IsPhrase (relax "\"-a-b\"").toList) ∧
      ('"' ∉ "a -b".toList ∧ IsPhrase (relax "\"a -b\"").toList) ∧
      ('"' ∉ "-a b".toList ∧ ¬ IsPhrase (relax "\"-a b\"").toList) ∧
      ('"' ∉ "a b-c".toList ∧ ¬ IsPhrase (relax "\"a b-c\"").toList) := by
  have one : (words "-a-b".toList).length = 1 := by decide +kernel
  have second_word : "a -b".toList.head? ≠ some '-' ∧
      ∀ w ∈ words "a -b".toList, ¬ HasInnerDash w := by decide +kernel
  have first_word : ¬ ((words "-a b".toList).length = 1 ∨ "-a b".toList.head? ≠ some '-' ∧
      ∀ w ∈ words "-a b".toList, ¬ HasInnerDash w) := by decide +kernel
  have last_word : ¬ ((words "a b-c".toList).length = 1 ∨ "a b-c".toList.head? ≠ some '-' ∧
      ∀ w ∈ words "a b-c".toList, ¬ HasInnerDash w) := by decide +kernel
  refine ⟨⟨by simp, ?_⟩, ⟨by simp, ?_⟩, ⟨by simp, ?_⟩, by simp, ?_⟩
  · exact (isPhrase_relax_iff (p := "-a-b") (by simp)).1.mpr (.inl one)
  · exact (isPhrase_relax_iff (p := "a -b") (by simp)).1.mpr (.inr second_word)
  · exact fun whole => first_word ((isPhrase_relax_iff (p := "-a b") (by simp)).1.mp whole)
  · exact fun whole => last_word ((isPhrase_relax_iff (p := "a b-c") (by simp)).1.mp whole)

/-- The first word of the phrase gets quotes of its own, the first of which ends the phrase. -/
theorem not_isPhrase_inner_dash :
    '"' ∉ "foo-bar baz".toList ∧ relax "\"foo-bar baz\"" = "\"\"foo\\-bar\" baz\"" ∧
      ¬ IsPhrase (relax "\"foo-bar baz\"").toList := by
  have written : relax "\"foo-bar baz\"" = "\"\"foo\\-bar\" baz\"" := by decide +kernel
  refine ⟨by simp, written, ?_⟩
  rw [written]
  exact fun whole => absurd
    ((isPhrase_quoted_iff "\"foo\\-bar\" baz".toList).mp (by simpa [quoted] using whole))
    (by decide)

end SearchQL.Match
