import SearchQL.Proofs.Match.Confined
import SearchQL.Proofs.Match.Words

/-!
# Exclusion — the dashes that begin a word

A dash at the beginning of a word asks for documents without that word, and
relaxed escaping leaves it as it is. It does not leave the beginning of the word
as it is: a word with an inner dash is put in quotes, and the quote goes before
the dash that begins the word. What was an exclusion is then the first character
of a phrase.

`excludes_relax_iff` says which words keep their exclusion. `BeginsWord` is what
has to hold of the text before a word for the word to stand at its position and
outside every phrase. Each word and the space behind it keep that
(`BeginsWord.next`), so it holds before every word (`beginsWord_of_recased`), and
what remains is what is written at the beginning of one word
(`relaxWord_dash_cases`).
-/

namespace SearchQL.Match

/-! ## Where a word begins -/

/-- Whether the word at a position, counted from zero, begins right behind a text, outside every
phrase and behind no open escape. -/
structure BeginsWord (before : List Char) (position : Nat) : Prop where
  behind_space : lastWord before = []
  position_eq : before.count ' ' = position
  outside : ∃ glyphs, read? before = some glyphs ∧ glyphs.count (.plain '"') % 2 = 0

/-- Whether the word at a position of a text stands outside every phrase and begins with the given
characters. -/
def WordBegins (cs : List Char) (position : Nat) (start : List Char) : Prop :=
  ∃ before rest, cs = before ++ (start ++ rest) ∧ BeginsWord before position

namespace BeginsWord

theorem nil : BeginsWord [] 0 := ⟨rfl, rfl, [], rfl, rfl⟩

/-- The next word begins behind a space, if the word before it leaves no phrase open. -/
theorem next {guarded before w : List Char} {position : Nat} (h : BeginsWord before position)
    (one_word : ' ' ∉ w) (confined : Confined guarded false w) :
    BeginsWord (before ++ (w ++ [' '])) (position + 1) := by
  obtain ⟨first, read_first, even⟩ := h.outside
  have spaced : Confined guarded false (w ++ [' ']) :=
    confined.append (.plain (by simp [delimiters]) .nil)
  obtain ⟨second, read_second, -, parity⟩ := spaced.exists_read?
  refine ⟨?_, ?_, first ++ second, read?_append read_first read_second, ?_⟩
  · rw [← List.append_assoc, lastWord_concat, if_pos rfl]
  · rw [List.count_append, List.count_append, h.position_eq, List.count_eq_zero.mpr one_word]
    rfl
  · rw [List.count_append, Nat.add_mod, even, parity]
    rfl

theorem eq_nil_of_append {before more : List Char} {position : Nat}
    (h : BeginsWord before position) (longer : BeginsWord (before ++ more) position) :
    more = [] := by
  have no_space : ' ' ∉ more := by
    have counts := longer.position_eq
    rw [List.count_append, h.position_eq] at counts
    exact List.count_eq_zero.mp (by omega)
  rcases List.eq_nil_or_concat more with none | ⟨most, c, rfl⟩
  · exact none
  · -- the last character would be a space
    have not_space : c ≠ ' ' := by
      rintro rfl
      simp at no_space
    have at_start := longer.behind_space
    rw [List.concat_eq_append, ← List.append_assoc, lastWord_concat, if_neg not_space] at at_start
    simp at at_start

/-- Each word begins in one place. -/
theorem wordBegins_append_iff {before : List Char} {position : Nat}
    (h : BeginsWord before position) (start rest : List Char) :
    WordBegins (before ++ rest) position start ↔ start <+: rest := by
  constructor
  · rintro ⟨other, behind, eq, begins⟩
    rcases List.append_eq_append_iff.mp eq with ⟨more, rfl, rest_eq⟩ | ⟨more, rfl, rest_eq⟩
    · rw [h.eq_nil_of_append begins, List.nil_append] at rest_eq
      exact ⟨behind, rest_eq.symm⟩
    · rw [begins.eq_nil_of_append h, List.nil_append] at rest_eq
      exact ⟨behind, rest_eq⟩
  · rintro ⟨behind, rfl⟩
    exact ⟨before, behind, rfl, h⟩

end BeginsWord

/-! ## What is written before a word -/

theorem confined_relaxWord {w : List Char} (unquoted : '"' ∉ w) :
    Confined ('-' :: guardedOperators) false (relaxWord w) := by
  obtain ⟨odd, confined, -⟩ := exists_confined_guardChar guardedOperators (by decide) w
  have parity := confined.count_quote (by decide)
  have none : (guardOperators w).count '"' = 0 := by
    rw [count_quote_guardOperators, List.count_eq_zero.mpr unquoted]
  cases odd with
  | false => exact confined.guardWord (by decide)
  | true =>
    rw [← guardOperators, none] at parity
    cases parity

theorem space_not_mem_relaxWord {w : List Char} (one_word : ' ' ∉ w) : ' ' ∉ relaxWord w := by
  have guarded : ' ' ∉ guardedWord w := fun mem =>
    (mem_guardDashes mem).elim
      (fun mem => (mem_guardOperators mem).elim one_word (by simp)) (by simp)
  rcases relaxWord_cases w with bare | quoted
  · rwa [bare]
  · simp [quoted, guarded]

/-- Behind any number of written words the next one begins. -/
theorem beginsWord_of_recased {ws : List (List Char)}
    (plain : ∀ w ∈ ws, ' ' ∉ w ∧ '"' ∉ w) {before : List Char}
    (h : Text.Recased (ws.flatMap fun w => relaxWord w ++ [' ']) before) :
    BeginsWord before ws.length := by
  induction ws using List.reverseRecOn generalizing before with
  | nil =>
    cases h
    exact .nil
  | append_singleton ws w ih =>
    rw [List.flatMap_append, List.flatMap_singleton] at h
    obtain ⟨first, _, rfl, those, behind⟩ := h.exists_append
    obtain ⟨word, _, rfl, this, space⟩ := behind.exists_append
    obtain ⟨_, rfl, ⟨⟩⟩ := space.exists_cons rfl
    obtain ⟨one_word, unquoted⟩ := plain w (by simp)
    have still_one : ' ' ∉ word := by
      rw [← List.count_eq_zero, this.count_eq rfl, List.count_eq_zero]
      exact space_not_mem_relaxWord one_word
    rw [List.length_append]
    exact (ih (fun w mem => plain w (List.mem_append_left _ mem)) those).next still_one
      ((confined_relaxWord unquoted).recased isSign_of_mem_escaped this)

/-! ## Which words keep it -/

/-- A word is written behind the words before it. -/
theorem exists_relaxChars_eq {cs w : List Char} {ws after : List (List Char)}
    (cut : words cs = ws ++ w :: after) :
    ∃ before rest, relaxChars cs = before ++ rest ∧
      Text.Recased (ws.flatMap fun w => relaxWord w ++ [' ']) before ∧
      Text.Recased (relaxWord w ++ after.flatMap fun w => ' ' :: relaxWord w) rest := by
  have h := Text.recased_lowercase ([' '].intercalate ((words cs).map relaxWord))
  rw [← relaxChars_eq, cut, List.map_append, List.map_cons, intercalate_append_cons,
    List.flatMap_map, List.flatMap_map] at h
  exact h.exists_append

/-- **Of the words that begin with a dash, those without an inner dash keep it as an operator.**
Each of the others begins with a quote and has its dash in the phrase. -/
theorem excludes_relax_iff {text : String} (unquoted : '"' ∉ text.toList) {position : Nat}
    {w : List Char}
    (word : ((collapseDashes text.toList).splitOn ' ')[position]? = some ('-' :: w)) :
    (WordBegins (relax text).toList position ['-'] ↔ ¬ HasInnerDash ('-' :: w)) ∧
      (HasInnerDash ('-' :: w) → WordBegins (relax text).toList position ['"', '-']) := by
  rw [← words_of_unquoted unquoted] at word
  obtain ⟨inside, found⟩ := List.getElem?_eq_some_iff.mp word
  have cut : words text.toList =
      (words text.toList).take position ++
        ('-' :: w) :: (words text.toList).drop (position + 1) := by
    rw [← found, ← List.drop_eq_getElem_cons inside, List.take_append_drop]
  have plain : ∀ w ∈ (words text.toList).take position, ' ' ∉ w ∧ '"' ∉ w := fun w mem =>
    have mem_words := List.mem_of_mem_take mem
    ⟨space_not_mem_of_mem_words mem_words, quote_not_mem_of_mem_words unquoted mem_words⟩
  obtain ⟨before, rest, written, those, this⟩ := exists_relaxChars_eq cut
  have begins := beginsWord_of_recased plain those
  rw [List.length_take_of_le inside.le] at begins
  rw [relax, String.toList_ofList, written, begins.wordBegins_append_iff,
    begins.wordBegins_append_iff]
  rcases relaxWord_dash_cases (w := '-' :: w) rfl with ⟨no_inner, bare⟩ | ⟨inner, quoted⟩
  · rw [bare, guardedWord_dash, List.cons_append] at this
    obtain ⟨_, rfl, -⟩ := this.exists_cons rfl
    simp [no_inner]
  · rw [quoted, guardedWord_dash, List.cons_append, List.cons_append] at this
    obtain ⟨_, rfl, behind⟩ := this.exists_cons rfl
    obtain ⟨_, rfl, -⟩ := behind.exists_cons rfl
    simp [inner]

/-- Of two words with a dash before them the first keeps its exclusion and the second does not. -/
theorem excludes_relax_iff_two_words :
    '"' ∉ "-foo -bar-baz".toList ∧
      (collapseDashes "-foo -bar-baz".toList).splitOn ' ' =
        [['-', 'f', 'o', 'o'], ['-', 'b', 'a', 'r', '-', 'b', 'a', 'z']] ∧
      WordBegins (relax "-foo -bar-baz").toList 0 ['-'] ∧
      ¬ WordBegins (relax "-foo -bar-baz").toList 1 ['-'] ∧
      WordBegins (relax "-foo -bar-baz").toList 1 ['"', '-'] := by
  have unquoted : '"' ∉ "-foo -bar-baz".toList := by simp
  have cut : (collapseDashes "-foo -bar-baz".toList).splitOn ' ' =
      [['-', 'f', 'o', 'o'], ['-', 'b', 'a', 'r', '-', 'b', 'a', 'z']] := by decide +kernel
  have no_inner : ¬ HasInnerDash ['-', 'f', 'o', 'o'] := by
    simp [hasInnerDash_cons_cons, not_hasInnerDash_singleton]
  have inner : HasInnerDash ['-', 'b', 'a', 'r', '-', 'b', 'a', 'z'] :=
    ⟨['-', 'b', 'a'], 'r', ['b', 'a', 'z'], rfl, by simp⟩
  obtain ⟨first, -⟩ := excludes_relax_iff unquoted (by rw [cut]; rfl : _[0]? = _)
  obtain ⟨second, in_phrase⟩ := excludes_relax_iff unquoted (by rw [cut]; rfl : _[1]? = _)
  exact ⟨unquoted, cut, first.mpr no_inner, fun kept => second.mp kept inner, in_phrase inner⟩

/-- The word begins with a dash and what is written for it with a quote. -/
theorem not_excludes_inner_dash :
    '"' ∉ "-foo-bar".toList ∧
      (collapseDashes "-foo-bar".toList).splitOn ' ' = ["-foo-bar".toList] ∧
      relax "-foo-bar" = "\"-foo\\-bar\"" ∧ ¬ WordBegins (relax "-foo-bar").toList 0 ['-'] := by
  have written : relax "-foo-bar" = "\"-foo\\-bar\"" := by decide +kernel
  refine ⟨by simp, by decide +kernel, written, fun begins => ?_⟩
  have dash_first : ['-'] <+: (relax "-foo-bar").toList :=
    (BeginsWord.nil.wordBegins_append_iff _ _).mp begins
  rw [written] at dash_first
  simp at dash_first

end SearchQL.Match
