import Mathlib.Data.List.DropRight
import SearchQL.Match.Relaxed
import SearchQL.Proofs.Text.Joined
import SearchQL.Proofs.Text.Lowercase

/-!
# Words — relaxed escaping, one word at a time

The stages of relaxed escaping run over the whole text, one after the other. This
module says what they come to for one word of the text as its writer wrote it.

The first stage puts backslashes in and nothing else, none of them before a
quote, a dash or a blank. The later stages look for just those three, so they
find what they would find in the text without the backslashes: the quotes are
closed, the dashes collapsed and the words cut as if the first stage came last.
Each word is then written by itself (`relaxChars_eq`), and inside a word the two
stages that put backslashes in are one pass, which looks at a character and the
one before it (`guardDashes_guardOperators_cons`).

A dash is *inner* if a character stands before it in its word and that character
is no backslash. Words with an inner dash are the ones that are put in quotes.
-/

namespace SearchQL.Match

/-! ## Guarding operators -/

/-- A text with a backslash before each operator that relaxed escaping guards. -/
def guardOperators (cs : List Char) : List Char := cs.flatMap (guardChar guardedOperators)

theorem guardOperators_cons (c : Char) (cs : List Char) :
    guardOperators (c :: cs) = guardChar guardedOperators c ++ guardOperators cs :=
  List.flatMap_cons

theorem guardChar_of_mem {special : List Char} {c : Char} (h : c ∈ special) :
    guardChar special c = ['\\', c] := if_pos h

theorem guardChar_of_not_mem {special : List Char} {c : Char} (h : c ∉ special) :
    guardChar special c = [c] := if_neg h

theorem dash_not_mem_guardedOperators : '-' ∉ guardedOperators := by simp [guardedOperators]

theorem guardChar_dash : guardChar guardedOperators '-' = ['-'] :=
  guardChar_of_not_mem dash_not_mem_guardedOperators

theorem mem_guardOperators {c : Char} {cs : List Char} (h : c ∈ guardOperators cs) :
    c ∈ cs ∨ c = '\\' := by
  obtain ⟨d, mem, written⟩ := List.mem_flatMap.mp h
  unfold guardChar at written
  split at written
  · rcases List.mem_cons.mp written with rfl | written
    · exact .inr rfl
    · rw [List.mem_singleton.mp written]
      exact .inl mem
  · rw [List.mem_singleton.mp written]
    exact .inl mem

theorem count_quote_guardOperators (cs : List Char) :
    (guardOperators cs).count '"' = cs.count '"' := by
  induction cs with
  | nil => rfl
  | cons c cs ih =>
    rw [guardOperators_cons, List.count_append, ih, List.count_cons, Nat.add_comm]
    congr 1
    by_cases mem : c ∈ guardedOperators
    · have not_quote : c ≠ '"' := ne_of_mem_of_not_mem mem (by simp [guardedOperators])
      simp [guardChar_of_mem mem, not_quote]
    · simp [guardChar_of_not_mem mem, List.count_cons]

theorem closeQuotes_guardOperators (cs : List Char) :
    closeQuotes (guardOperators cs) = guardOperators (closeQuotes cs) := by
  unfold closeQuotes
  rw [count_quote_guardOperators]
  split
  · rw [guardOperators, guardOperators, List.flatMap_append]
    rfl
  · rfl

/-! ## Guarding and collapsing -/

theorem not_mem_of_isBlank {c : Char} (blank : Text.isBlank c = true) : c ∉ guardedOperators := by
  intro mem
  have not_blank : ∀ d ∈ guardedOperators, (!Text.isBlank d) = true :=
    List.all_eq_true.mp (by decide)
  have not_blank_c := not_blank c mem
  rw [blank] at not_blank_c
  cases not_blank_c

theorem dropWhile_guardOperators (cs : List Char) :
    (guardOperators cs).dropWhile Text.isBlank = guardOperators (cs.dropWhile Text.isBlank) := by
  induction cs with
  | nil => rfl
  | cons c cs ih =>
    rw [guardOperators_cons]
    cases blank : Text.isBlank c with
    | true =>
      rw [guardChar_of_not_mem (not_mem_of_isBlank blank), List.singleton_append,
        List.dropWhile_cons_of_pos blank, List.dropWhile_cons_of_pos blank, ih]
    | false =>
      rw [List.dropWhile_cons_of_neg (by simp [blank]), guardOperators_cons]
      by_cases mem : c ∈ guardedOperators
      · rw [guardChar_of_mem mem]
        exact List.dropWhile_cons_of_neg Bool.false_ne_true
      · rw [guardChar_of_not_mem mem]
        exact List.dropWhile_cons_of_neg (by simp [blank])

theorem head?_guardOperators_eq_dash_iff (cs : List Char) :
    (guardOperators cs).head? = some '-' ↔ cs.head? = some '-' := by
  cases cs with
  | nil => rfl
  | cons c cs =>
    rw [guardOperators_cons]
    by_cases mem : c ∈ guardedOperators
    · have not_dash : c ≠ '-' := ne_of_mem_of_not_mem mem dash_not_mem_guardedOperators
      simp [guardChar_of_mem mem, not_dash]
    · simp [guardChar_of_not_mem mem]

/-- A dash before a text whose dashes are collapsed goes where the next one is, if there is one. -/
theorem pushCollapsed_dash_eq (rest : List Char) :
    pushCollapsed '-' rest =
      if (rest.dropWhile Text.isBlank).head? = some '-' then rest.dropWhile Text.isBlank
      else '-' :: rest := by
  rw [pushCollapsed, if_pos rfl]
  split
  · rename_i more found
    rw [found, List.head?_cons, if_pos rfl]
  · rename_i other
    rw [if_neg]
    intro found
    obtain ⟨more, eq⟩ := List.head?_eq_some_iff.mp found
    exact other more eq

theorem collapseDashes_guardOperators (cs : List Char) :
    collapseDashes (guardOperators cs) = guardOperators (collapseDashes cs) := by
  induction cs with
  | nil => rfl
  | cons c cs ih =>
    rw [guardOperators_cons, collapseDashes_cons]
    by_cases dash : c = '-'
    · subst dash
      rw [guardChar_dash, List.singleton_append, collapseDashes_cons, ih,
        pushCollapsed_dash_eq, pushCollapsed_dash_eq, dropWhile_guardOperators]
      simp only [head?_guardOperators_eq_dash_iff]
      split
      · rfl
      · rw [guardOperators_cons, guardChar_dash, List.singleton_append]
    · rw [pushCollapsed_of_ne dash, guardOperators_cons, ← ih]
      by_cases mem : c ∈ guardedOperators
      · rw [guardChar_of_mem mem, List.cons_append, List.singleton_append, collapseDashes_cons,
          collapseDashes_cons, pushCollapsed_of_ne (by simp), pushCollapsed_of_ne dash]
        rfl
      · rw [guardChar_of_not_mem mem, List.singleton_append, collapseDashes_cons,
          pushCollapsed_of_ne dash]
        rfl

theorem splitOn_guardOperators (cs : List Char) :
    (guardOperators cs).splitOn ' ' = (cs.splitOn ' ').map guardOperators := by
  have whole : [' '].intercalate (cs.splitOn ' ') = cs := List.intercalate_splitOn ' '
  have guarded : guardOperators cs = [' '].intercalate ((cs.splitOn ' ').map guardOperators) :=
    (congrArg guardOperators whole).symm.trans (flatMap_intercalate rfl _)
  rw [guarded]
  refine List.splitOn_intercalate ' ' (fun part mem => ?_) (by simp [List.splitOn_ne_nil])
  obtain ⟨word, of_text, rfl⟩ := List.mem_map.mp mem
  intro space
  rcases mem_guardOperators space with space | backslash
  · exact not_mem_of_mem_splitOn of_text space
  · cases backslash

theorem mem_collapseDashes {c : Char} {cs : List Char} (h : c ∈ collapseDashes cs) : c ∈ cs := by
  induction cs with
  | nil => exact h
  | cons d cs ih =>
    rw [collapseDashes_cons] at h
    have shorter : c = d ∨ c ∈ collapseDashes cs := by
      by_cases dash : d = '-'
      · rw [dash, pushCollapsed_dash_eq] at h
        rw [dash]
        split at h
        · exact .inr ((List.dropWhile_sublist _).subset h)
        · exact List.mem_cons.mp h
      · rw [pushCollapsed_of_ne dash] at h
        exact List.mem_cons.mp h
    exact List.mem_cons.mpr (shorter.imp_right ih)

/-! ## Word by word -/

/-- The words of a text whose quotes are closed and whose dashes are collapsed. -/
def words (cs : List Char) : List (List Char) := (collapseDashes (closeQuotes cs)).splitOn ' '

/-- What relaxed escaping makes of one word, but for lower case. -/
def relaxWord (w : List Char) : List Char := guardWord (guardOperators w)

theorem space_not_mem_of_mem_words {cs w : List Char} (h : w ∈ words cs) : ' ' ∉ w :=
  not_mem_of_mem_splitOn h

theorem words_of_unquoted {cs : List Char} (unquoted : '"' ∉ cs) :
    words cs = (collapseDashes cs).splitOn ' ' := by
  rw [words, closeQuotes, List.count_eq_zero.mpr unquoted, if_neg (by simp)]

theorem quote_not_mem_of_mem_words {cs w : List Char} (unquoted : '"' ∉ cs) (h : w ∈ words cs) :
    '"' ∉ w := by
  intro mem
  rw [words_of_unquoted unquoted] at h
  exact unquoted (mem_collapseDashes (mem_of_mem_splitOn h mem))

/-- What stands of the last word of a text: the characters behind its last space. -/
def lastWord (cs : List Char) : List Char := cs.rtakeWhile (· ≠ ' ')

theorem lastWord_concat (cs : List Char) (c : Char) :
    lastWord (cs ++ [c]) = if c = ' ' then [] else lastWord cs ++ [c] := by
  unfold lastWord
  split
  · rename_i space
    exact List.rtakeWhile_concat_neg _ _ _ (by simp [space])
  · rename_i not_space
    exact List.rtakeWhile_concat_pos _ _ _ (by simp [not_space])

/-- Relaxed escaping writes the words of the text one by one. -/
theorem relaxChars_eq (cs : List Char) :
    relaxChars cs = Text.lowercase ([' '].intercalate ((words cs).map relaxWord)) := by
  show Text.lowercase (guardWords (collapseDashes (closeQuotes (guardOperators cs)))) = _
  rw [closeQuotes_guardOperators, collapseDashes_guardOperators, guardWords,
    splitOn_guardOperators, List.map_map]
  rfl

/-! ## Inner dashes -/

/-- Whether a dash of a word has a character before it that is no backslash. -/
def HasInnerDash (w : List Char) : Prop :=
  ∃ before c after, w = before ++ c :: '-' :: after ∧ c ≠ '\\'

theorem hasInnerDash_cons_cons {c d : Char} {cs : List Char} :
    HasInnerDash (c :: d :: cs) ↔ c ≠ '\\' ∧ d = '-' ∨ HasInnerDash (d :: cs) := by
  constructor
  · rintro ⟨_ | ⟨b, before⟩, e, after, eq, ne⟩
    · cases eq
      exact .inl ⟨ne, rfl⟩
    · exact .inr ⟨before, e, after, (List.cons.inj eq).2, ne⟩
  · rintro (⟨ne, rfl⟩ | ⟨before, e, after, eq, ne⟩)
    · exact ⟨[], c, cs, rfl, ne⟩
    · exact ⟨c :: before, e, after, by rw [eq, List.cons_append], ne⟩

theorem not_hasInnerDash_nil : ¬ HasInnerDash [] := by
  rintro ⟨before, c, after, eq, -⟩
  simp at eq

theorem not_hasInnerDash_singleton (c : Char) : ¬ HasInnerDash [c] := by
  rintro ⟨_ | ⟨b, before⟩, e, after, eq, -⟩
  · cases eq
  · simp at eq

/-- The two stages that put backslashes in, in one step. -/
theorem guardDashes_guardOperators_cons (before c : Char) (w : List Char) :
    guardDashes before (guardOperators (c :: w)) =
      (if c = '-' ∧ before ≠ '\\' then ['\\', '-'] else guardChar guardedOperators c) ++
        guardDashes c (guardOperators w) := by
  rw [guardOperators_cons]
  by_cases dash : c = '-'
  · subst dash
    rw [guardChar_dash, List.singleton_append, guardDashes]
    by_cases backslash : before = '\\' <;> simp [backslash]
  · rw [if_neg fun both => dash both.1]
    by_cases mem : c ∈ guardedOperators
    · rw [guardChar_of_mem mem, List.cons_append, List.cons_append, List.nil_append,
        guardDashes_of_ne (by simp), guardDashes_of_ne dash]
      rfl
    · rw [guardChar_of_not_mem mem, List.singleton_append, guardDashes_of_ne dash]
      rfl

theorem mem_guardDashes {before c : Char} {cs : List Char} (h : c ∈ guardDashes before cs) :
    c ∈ cs ∨ c = '\\' := by
  induction cs generalizing before with
  | nil => exact .inl h
  | cons d cs ih =>
    have split : c = '\\' ∨ c = d ∨ c ∈ guardDashes d cs := by
      rw [guardDashes] at h
      split at h
      · simpa using h
      · exact .inr (List.mem_cons.mp h)
    rcases split with backslash | here | later
    · exact .inr backslash
    · exact .inl (here ▸ List.mem_cons_self)
    · exact (ih later).imp_left (List.mem_cons_of_mem d)

theorem count_quote_guardDashes (before : Char) (cs : List Char) :
    (guardDashes before cs).count '"' = cs.count '"' := by
  induction cs generalizing before with
  | nil => rfl
  | cons c cs ih =>
    rw [guardDashes]
    split
    · rename_i dash
      simp [dash.1, ih]
    · rw [List.count_cons, List.count_cons, ih]

theorem guardDashes_eq_self_iff (before : Char) (w : List Char) :
    guardDashes before (guardOperators w) = guardOperators w ↔ ¬ HasInnerDash (before :: w) := by
  induction w generalizing before with
  | nil => exact iff_of_true rfl (not_hasInnerDash_singleton before)
  | cons c w ih =>
    rw [guardDashes_guardOperators_cons, guardOperators_cons, hasInnerDash_cons_cons]
    by_cases inner : c = '-' ∧ before ≠ '\\'
    · obtain ⟨rfl, ne⟩ := inner
      rw [if_pos ⟨rfl, ne⟩, guardChar_dash]
      simp [ne]
    · rw [if_neg inner, List.append_cancel_left_eq, ih, not_or]
      exact (and_iff_right fun both => inner both.symm).symm

/-- A word with the operators and the inner dashes guarded. -/
def guardedWord (w : List Char) : List Char := guardDashes '\\' (guardOperators w)

theorem guardedWord_cons (c : Char) (w : List Char) :
    guardedWord (c :: w) = guardChar guardedOperators c ++ guardDashes c (guardOperators w) := by
  rw [guardedWord, guardDashes_guardOperators_cons, if_neg fun both => both.2 rfl]

theorem guardedWord_eq_iff (w : List Char) :
    guardedWord w = guardOperators w ↔ ¬ HasInnerDash w := by
  rw [guardedWord, guardDashes_eq_self_iff]
  cases w with
  | nil => exact iff_of_true (not_hasInnerDash_singleton _) not_hasInnerDash_nil
  | cons c w => simp [hasInnerDash_cons_cons]

instance : DecidablePred HasInnerDash := fun w =>
  decidable_of_iff (guardedWord w ≠ guardOperators w)
    ((not_congr (guardedWord_eq_iff w)).trans not_not)

/-- A word with an inner dash is put in quotes unless it stands in them. -/
theorem relaxWord_eq (w : List Char) :
    relaxWord w =
      if guardedWord w = guardOperators w then guardedWord w
      else if isQuoted (guardedWord w) then guardedWord w
      else '"' :: guardedWord w ++ ['"'] := by
  unfold relaxWord guardedWord
  cases eq : guardOperators w with
  | nil => rfl
  | cons c rest =>
    rw [guardDashes_backslash, guardWord]
    split
    · rename_i same
      rw [same]
    · rfl

theorem relaxWord_cases (w : List Char) :
    relaxWord w = guardedWord w ∨ relaxWord w = '"' :: guardedWord w ++ ['"'] := by
  rw [relaxWord_eq]
  split
  · exact .inl rfl
  · split
    · exact .inl rfl
    · exact .inr rfl

theorem count_quote_guardedWord (w : List Char) : (guardedWord w).count '"' = w.count '"' := by
  rw [guardedWord, count_quote_guardDashes, count_quote_guardOperators]

/-- The quotes of a word stay, and two come or none. -/
theorem count_quote_relaxWord (w : List Char) :
    (relaxWord w).count '"' % 2 = w.count '"' % 2 := by
  rcases relaxWord_cases w with bare | quoted
  · rw [bare, count_quote_guardedWord]
  · rw [quoted, List.count_append, List.count_cons_self, count_quote_guardedWord,
      List.count_singleton_self]
    omega

theorem guardedWord_dash (w : List Char) :
    guardedWord ('-' :: w) = '-' :: guardDashes '-' (guardOperators w) := by
  rw [guardedWord_cons, guardChar_dash, List.singleton_append]

/-- A word that begins with a dash is put in quotes exactly if it has an inner dash. -/
theorem relaxWord_dash_cases {w : List Char} (dash : w.head? = some '-') :
    (¬ HasInnerDash w ∧ relaxWord w = guardedWord w) ∨
      (HasInnerDash w ∧ relaxWord w = '"' :: guardedWord w ++ ['"']) := by
  obtain ⟨rest, rfl⟩ := List.head?_eq_some_iff.mp dash
  rw [relaxWord_eq]
  split
  · rename_i same
    exact .inl ⟨(guardedWord_eq_iff _).mp same, rfl⟩
  · rename_i changed
    have inner := not_not.mp fun none => changed ((guardedWord_eq_iff _).mpr none)
    rw [if_neg (by simp [guardedWord_dash, isQuoted])]
    exact .inr ⟨inner, rfl⟩

end SearchQL.Match
